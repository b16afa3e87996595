import ChainRecord.Schema.Tag
import ChainRecord.Wire.Shape

/-!
# Messages about zero-knowledge security modules

Security modules that accept messages by proofs of execution and of membership.
-/

namespace ChainRecord.ZkIsm

/-- Creates a module. -/
structure MsgCreateZkExecutionIsm where
  creator : String
  stateRoot : Bytes
  height : UInt64
  namespaceId : Bytes
  sequencerPublicKey : Bytes
  groth16Vkey : Bytes
  stateTransitionVkey : Bytes
  stateMembershipVkey : Bytes

def MsgCreateZkExecutionIsm.shape : Wire.Shape MsgCreateZkExecutionIsm :=
  .mk "MsgCreateZkExecutionIsm"
    (.cons 1 "creator" .string <|
      .cons 2 "state_root" .bytes <|
      .cons 3 "height" .uint64 <|
      .cons 4 "namespace" .bytes <|
      .cons 5 "sequencer_public_key" .bytes <|
      .cons 6 "groth16_vkey" .bytes <|
      .cons 7 "state_transition_vkey" .bytes <|
      .cons 8 "state_membership_vkey" .bytes .nil)
    (fun (creator, stateRoot, height, namespaceId, sequencerPublicKey, groth16Vkey,
         stateTransitionVkey, stateMembershipVkey, _) ↦
      ⟨creator, stateRoot, height, namespaceId, sequencerPublicKey, groth16Vkey,
       stateTransitionVkey, stateMembershipVkey⟩)
    (fun m ↦
      (m.creator, m.stateRoot, m.height, m.namespaceId, m.sequencerPublicKey, m.groth16Vkey,
       m.stateTransitionVkey, m.stateMembershipVkey, ()))

/-- Moves the trusted state of a module forward. -/
structure MsgUpdateZkExecutionIsm where
  id : String
  height : UInt64
  proof : Bytes
  publicValues : Bytes
  signer : String

def MsgUpdateZkExecutionIsm.shape : Wire.Shape MsgUpdateZkExecutionIsm :=
  .mk "MsgUpdateZkExecutionIsm"
    (.cons 1 "id" .string <|
      .cons 2 "height" .uint64 <|
      .cons 3 "proof" .bytes <|
      .cons 4 "public_values" .bytes <|
      .cons 5 "signer" .string .nil)
    (fun (id, height, proof, publicValues, signer, _) ↦ ⟨id, height, proof, publicValues, signer⟩)
    (fun m ↦ (m.id, m.height, m.proof, m.publicValues, m.signer, ()))

/-- Submits a proof for a batch of messages. -/
structure MsgSubmitMessages where
  id : String
  height : UInt64
  proof : Bytes
  publicValues : Bytes
  signer : String

def MsgSubmitMessages.shape : Wire.Shape MsgSubmitMessages :=
  .mk "MsgSubmitMessages"
    (.cons 1 "id" .string <|
      .cons 2 "height" .uint64 <|
      .cons 3 "proof" .bytes <|
      .cons 4 "public_values" .bytes <|
      .cons 5 "signer" .string .nil)
    (fun (id, height, proof, publicValues, signer, _) ↦ ⟨id, height, proof, publicValues, signer⟩)
    (fun m ↦ (m.id, m.height, m.proof, m.publicValues, m.signer, ()))

/-! ### The kinds of messages -/

inductive Kind where
  | createExecution
  | updateExecution
  | submitMessages
  deriving DecidableEq

namespace Kind

def all : List Kind :=
  [.createExecution, .updateExecution, .submitMessages]

@[reducible] def Body : Kind → Type
  | .createExecution => MsgCreateZkExecutionIsm
  | .updateExecution => MsgUpdateZkExecutionIsm
  | .submitMessages => MsgSubmitMessages

def typeUrl : Kind → String
  | .createExecution => "/celestia.zkism.v1.MsgCreateZKExecutionISM"
  | .updateExecution => "/celestia.zkism.v1.MsgUpdateZKExecutionISM"
  | .submitMessages => "/celestia.zkism.v1.MsgSubmitMessages"

def tag : Kind → Tag
  | .createExecution => .createZkExecutionIsm
  | .updateExecution => .updateZkExecutionIsm
  | .submitMessages => .submitMessages

def shape : (kind : Kind) → Wire.Shape kind.Body
  | .createExecution => MsgCreateZkExecutionIsm.shape
  | .updateExecution => MsgUpdateZkExecutionIsm.shape
  | .submitMessages => MsgSubmitMessages.shape

def signers : (kind : Kind) → kind.Body → List String
  | .createExecution, m => [m.creator]
  | .updateExecution, m => [m.signer]
  | .submitMessages, m => [m.signer]

end Kind

end ChainRecord.ZkIsm
