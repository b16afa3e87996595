import ChainRecord.Schema.Base
import ChainRecord.Schema.Tag

/-!
# Messages about light clients

Light clients of other chains. Their states are wrapped and not looked into.
-/

namespace ChainRecord.IbcClient

/-- Creates a light client. -/
structure MsgCreateClient where
  clientState : Option Any
  consensusState : Option Any
  signer : String

def MsgCreateClient.shape : Wire.Shape MsgCreateClient :=
  .mk "MsgCreateClient"
    (.cons 1 "client_state" (.message Any.shape) <|
      .cons 2 "consensus_state" (.message Any.shape) <|
      .cons 3 "signer" .string .nil)
    (fun (clientState, consensusState, signer, _) ↦ ⟨clientState, consensusState, signer⟩)
    (fun m ↦ (m.clientState, m.consensusState, m.signer, ()))

/-- Brings a light client up to date. -/
structure MsgUpdateClient where
  clientId : String
  clientMessage : Option Any
  signer : String

def MsgUpdateClient.shape : Wire.Shape MsgUpdateClient :=
  .mk "MsgUpdateClient"
    (.cons 1 "client_id" .string <|
      .cons 2 "client_message" (.message Any.shape) <|
      .cons 3 "signer" .string .nil)
    (fun (clientId, clientMessage, signer, _) ↦ ⟨clientId, clientMessage, signer⟩)
    (fun m ↦ (m.clientId, m.clientMessage, m.signer, ()))

/-- Replaces a light client after an upgrade of its chain. -/
structure MsgUpgradeClient where
  clientId : String
  clientState : Option Any
  consensusState : Option Any
  proofUpgradeClient : Bytes
  proofUpgradeConsensusState : Bytes
  signer : String

def MsgUpgradeClient.shape : Wire.Shape MsgUpgradeClient :=
  .mk "MsgUpgradeClient"
    (.cons 1 "client_id" .string <|
      .cons 2 "client_state" (.message Any.shape) <|
      .cons 3 "consensus_state" (.message Any.shape) <|
      .cons 4 "proof_upgrade_client" .bytes <|
      .cons 5 "proof_upgrade_consensus_state" .bytes <|
      .cons 6 "signer" .string .nil)
    (fun (clientId, clientState, consensusState, proofUpgradeClient,
         proofUpgradeConsensusState, signer, _) ↦
      ⟨clientId, clientState, consensusState, proofUpgradeClient, proofUpgradeConsensusState,
       signer⟩)
    (fun m ↦
      (m.clientId, m.clientState, m.consensusState, m.proofUpgradeClient,
       m.proofUpgradeConsensusState, m.signer, ()))

/-- Submits evidence against a light client. -/
structure MsgSubmitMisbehaviour where
  clientId : String
  misbehaviour : Option Any
  signer : String

def MsgSubmitMisbehaviour.shape : Wire.Shape MsgSubmitMisbehaviour :=
  .mk "MsgSubmitMisbehaviour"
    (.cons 1 "client_id" .string <|
      .cons 2 "misbehaviour" (.message Any.shape) <|
      .cons 3 "signer" .string .nil)
    (fun (clientId, misbehaviour, signer, _) ↦ ⟨clientId, misbehaviour, signer⟩)
    (fun m ↦ (m.clientId, m.misbehaviour, m.signer, ()))

/-- Content of a proposal to put another light client in the place of one. -/
structure ClientUpdateProposal where
  title : String
  description : String
  subjectClientId : String
  substituteClientId : String

def ClientUpdateProposal.shape : Wire.Shape ClientUpdateProposal :=
  .mk "ClientUpdateProposal"
    (.cons 1 "title" .string <|
      .cons 2 "description" .string <|
      .cons 3 "subject_client_id" .string <|
      .cons 4 "substitute_client_id" .string .nil)
    (fun (title, description, subjectClientId, substituteClientId, _) ↦
      ⟨title, description, subjectClientId, substituteClientId⟩)
    (fun m ↦ (m.title, m.description, m.subjectClientId, m.substituteClientId, ()))

/-! ### The kinds of messages -/

inductive Kind where
  | createClient
  | updateClient
  | upgradeClient
  | submitMisbehaviour
  deriving DecidableEq

namespace Kind

def all : List Kind :=
  [.createClient, .updateClient, .upgradeClient, .submitMisbehaviour]

@[reducible] def Body : Kind → Type
  | .createClient => MsgCreateClient
  | .updateClient => MsgUpdateClient
  | .upgradeClient => MsgUpgradeClient
  | .submitMisbehaviour => MsgSubmitMisbehaviour

def typeUrl : Kind → String
  | .createClient => "/ibc.core.client.v1.MsgCreateClient"
  | .updateClient => "/ibc.core.client.v1.MsgUpdateClient"
  | .upgradeClient => "/ibc.core.client.v1.MsgUpgradeClient"
  | .submitMisbehaviour => "/ibc.core.client.v1.MsgSubmitMisbehaviour"

def tag : Kind → Tag
  | .createClient => .createClient
  | .updateClient => .updateClient
  | .upgradeClient => .upgradeClient
  | .submitMisbehaviour => .submitMisbehaviour

def shape : (kind : Kind) → Wire.Shape kind.Body
  | .createClient => MsgCreateClient.shape
  | .updateClient => MsgUpdateClient.shape
  | .upgradeClient => MsgUpgradeClient.shape
  | .submitMisbehaviour => MsgSubmitMisbehaviour.shape

def signers : (kind : Kind) → kind.Body → List String
  | .createClient, m => [m.signer]
  | .updateClient, m => [m.signer]
  | .upgradeClient, m => [m.signer]
  | .submitMisbehaviour, m => [m.signer]

end Kind

end ChainRecord.IbcClient
