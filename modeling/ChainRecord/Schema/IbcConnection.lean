import ChainRecord.Schema.Base
import ChainRecord.Schema.Tag

/-!
# Messages about connections

The handshake by which two chains open a connection.
-/

namespace ChainRecord.IbcConnection

/-- The other end of a connection. -/
structure Counterparty where
  clientId : String
  connectionId : String
  merklePrefix : Bytes

def Counterparty.shape : Wire.Shape Counterparty :=
  .mk "Counterparty"
    (.cons 1 "client_id" .string <|
      .cons 2 "connection_id" .string <|
      .cons 3 "prefix" .bytes .nil)
    (fun (clientId, connectionId, merklePrefix, _) ↦ ⟨clientId, connectionId, merklePrefix⟩)
    (fun m ↦ (m.clientId, m.connectionId, m.merklePrefix, ()))

/-- A version of the protocol and the features it has. -/
structure Version where
  identifier : String
  features : List String

def Version.shape : Wire.Shape Version :=
  .mk "Version"
    (.cons 1 "identifier" .string <|
      .cons 2 "features" .strings .nil)
    (fun (identifier, features, _) ↦ ⟨identifier, features⟩)
    (fun m ↦ (m.identifier, m.features, ()))

/-- Begins a handshake. -/
structure MsgConnectionOpenInit where
  clientId : String
  counterparty : Option Counterparty
  version : Option Version
  delayPeriod : UInt64
  signer : String

def MsgConnectionOpenInit.shape : Wire.Shape MsgConnectionOpenInit :=
  .mk "MsgConnectionOpenInit"
    (.cons 1 "client_id" .string <|
      .cons 2 "counterparty" (.message Counterparty.shape) <|
      .cons 3 "version" (.message Version.shape) <|
      .cons 4 "delay_period" .uint64 <|
      .cons 5 "signer" .string .nil)
    (fun (clientId, counterparty, version, delayPeriod, signer, _) ↦
      ⟨clientId, counterparty, version, delayPeriod, signer⟩)
    (fun m ↦ (m.clientId, m.counterparty, m.version, m.delayPeriod, m.signer, ()))

/-- Answers the beginning of a handshake. -/
structure MsgConnectionOpenTry where
  clientId : String
  counterparty : Option Counterparty
  delayPeriod : UInt64
  counterpartyVersions : List Version
  proofHeight : Option Height
  proofInit : Bytes
  signer : String

def MsgConnectionOpenTry.shape : Wire.Shape MsgConnectionOpenTry :=
  .mk "MsgConnectionOpenTry"
    (.cons 1 "client_id" .string <|
      .cons 4 "counterparty" (.message Counterparty.shape) <|
      .cons 5 "delay_period" .uint64 <|
      .cons 6 "counterparty_versions" (.messages Version.shape) <|
      .cons 7 "proof_height" (.message Height.shape) <|
      .cons 8 "proof_init" .bytes <|
      .cons 12 "signer" .string .nil)
    (fun (clientId, counterparty, delayPeriod, counterpartyVersions, proofHeight, proofInit,
         signer, _) ↦
      ⟨clientId, counterparty, delayPeriod, counterpartyVersions, proofHeight, proofInit, signer⟩)
    (fun m ↦
      (m.clientId, m.counterparty, m.delayPeriod, m.counterpartyVersions, m.proofHeight,
       m.proofInit, m.signer, ()))

/-- Acknowledges the answer. -/
structure MsgConnectionOpenAck where
  connectionId : String
  counterpartyConnectionId : String
  version : Option Version
  proofHeight : Option Height
  proofTry : Bytes
  signer : String

def MsgConnectionOpenAck.shape : Wire.Shape MsgConnectionOpenAck :=
  .mk "MsgConnectionOpenAck"
    (.cons 1 "connection_id" .string <|
      .cons 2 "counterparty_connection_id" .string <|
      .cons 3 "version" (.message Version.shape) <|
      .cons 5 "proof_height" (.message Height.shape) <|
      .cons 6 "proof_try" .bytes <|
      .cons 10 "signer" .string .nil)
    (fun (connectionId, counterpartyConnectionId, version, proofHeight, proofTry, signer, _) ↦
      ⟨connectionId, counterpartyConnectionId, version, proofHeight, proofTry, signer⟩)
    (fun m ↦
      (m.connectionId, m.counterpartyConnectionId, m.version, m.proofHeight, m.proofTry, m.signer,
       ()))

/-- Confirms the acknowledgement. -/
structure MsgConnectionOpenConfirm where
  connectionId : String
  proofAck : Bytes
  proofHeight : Option Height
  signer : String

def MsgConnectionOpenConfirm.shape : Wire.Shape MsgConnectionOpenConfirm :=
  .mk "MsgConnectionOpenConfirm"
    (.cons 1 "connection_id" .string <|
      .cons 2 "proof_ack" .bytes <|
      .cons 3 "proof_height" (.message Height.shape) <|
      .cons 4 "signer" .string .nil)
    (fun (connectionId, proofAck, proofHeight, signer, _) ↦
      ⟨connectionId, proofAck, proofHeight, signer⟩)
    (fun m ↦ (m.connectionId, m.proofAck, m.proofHeight, m.signer, ()))

/-! ### The kinds of messages -/

inductive Kind where
  | openInit
  | openTry
  | openAck
  | openConfirm
  deriving DecidableEq

namespace Kind

def all : List Kind :=
  [.openInit, .openTry, .openAck, .openConfirm]

@[reducible] def Body : Kind → Type
  | .openInit => MsgConnectionOpenInit
  | .openTry => MsgConnectionOpenTry
  | .openAck => MsgConnectionOpenAck
  | .openConfirm => MsgConnectionOpenConfirm

def typeUrl : Kind → String
  | .openInit => "/ibc.core.connection.v1.MsgConnectionOpenInit"
  | .openTry => "/ibc.core.connection.v1.MsgConnectionOpenTry"
  | .openAck => "/ibc.core.connection.v1.MsgConnectionOpenAck"
  | .openConfirm => "/ibc.core.connection.v1.MsgConnectionOpenConfirm"

def tag : Kind → Tag
  | .openInit => .connectionOpenInit
  | .openTry => .connectionOpenTry
  | .openAck => .connectionOpenAck
  | .openConfirm => .connectionOpenConfirm

def shape : (kind : Kind) → Wire.Shape kind.Body
  | .openInit => MsgConnectionOpenInit.shape
  | .openTry => MsgConnectionOpenTry.shape
  | .openAck => MsgConnectionOpenAck.shape
  | .openConfirm => MsgConnectionOpenConfirm.shape

def signers : (kind : Kind) → kind.Body → List String
  | .openInit, m => [m.signer]
  | .openTry, m => [m.signer]
  | .openAck, m => [m.signer]
  | .openConfirm, m => [m.signer]

end Kind

end ChainRecord.IbcConnection
