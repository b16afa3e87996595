import ChainRecord.Schema.Tag
import ChainRecord.Wire.Shape

/-!
# Messages about interchain security modules

Modules that decide whether a message from another chain is accepted.
-/

namespace ChainRecord.SecurityModule

/-- Creates a module that counts signatures of message identifiers. -/
structure MsgCreateMessageIdMultisigIsm where
  creator : String
  validators : List String
  threshold : UInt32

def MsgCreateMessageIdMultisigIsm.shape : Wire.Shape MsgCreateMessageIdMultisigIsm :=
  .mk "MsgCreateMessageIdMultisigIsm"
    (.cons 1 "creator" .string <|
      .cons 2 "validators" .strings <|
      .cons 3 "threshold" .uint32 .nil)
    (fun (creator, validators, threshold, _) ↦ ⟨creator, validators, threshold⟩)
    (fun m ↦ (m.creator, m.validators, m.threshold, ()))

/-- Creates a module that counts signatures of Merkle roots. -/
structure MsgCreateMerkleRootMultisigIsm where
  creator : String
  validators : List String
  threshold : UInt32

def MsgCreateMerkleRootMultisigIsm.shape : Wire.Shape MsgCreateMerkleRootMultisigIsm :=
  .mk "MsgCreateMerkleRootMultisigIsm"
    (.cons 1 "creator" .string <|
      .cons 2 "validators" .strings <|
      .cons 3 "threshold" .uint32 .nil)
    (fun (creator, validators, threshold, _) ↦ ⟨creator, validators, threshold⟩)
    (fun m ↦ (m.creator, m.validators, m.threshold, ()))

/-- Creates a module that accepts every message. -/
structure MsgCreateNoopIsm where
  creator : String

def MsgCreateNoopIsm.shape : Wire.Shape MsgCreateNoopIsm :=
  .mk "MsgCreateNoopIsm"
    (.cons 1 "creator" .string .nil)
    (fun (creator, _) ↦ ⟨creator⟩)
    (fun m ↦ (m.creator, ()))

/-- Announces where the signatures of a validator are stored. -/
structure MsgAnnounceValidator where
  validator : String
  storageLocation : String
  signature : String
  mailboxId : String
  creator : String

def MsgAnnounceValidator.shape : Wire.Shape MsgAnnounceValidator :=
  .mk "MsgAnnounceValidator"
    (.cons 1 "validator" .string <|
      .cons 2 "storage_location" .string <|
      .cons 3 "signature" .string <|
      .cons 4 "mailbox_id" .string <|
      .cons 5 "creator" .string .nil)
    (fun (validator, storageLocation, signature, mailboxId, creator, _) ↦
      ⟨validator, storageLocation, signature, mailboxId, creator⟩)
    (fun m ↦ (m.validator, m.storageLocation, m.signature, m.mailboxId, m.creator, ()))

/-- The module in charge of a remote domain. -/
structure Route where
  ism : String
  domain : UInt32

def Route.shape : Wire.Shape Route :=
  .mk "Route"
    (.cons 1 "ism" .string <|
      .cons 2 "domain" .uint32 .nil)
    (fun (ism, domain, _) ↦ ⟨ism, domain⟩)
    (fun m ↦ (m.ism, m.domain, ()))

/-- Creates a module that passes messages on by their domain. -/
structure MsgCreateRoutingIsm where
  creator : String
  routes : List Route

def MsgCreateRoutingIsm.shape : Wire.Shape MsgCreateRoutingIsm :=
  .mk "MsgCreateRoutingIsm"
    (.cons 1 "creator" .string <|
      .cons 2 "routes" (.messages Route.shape) .nil)
    (fun (creator, routes, _) ↦ ⟨creator, routes⟩)
    (fun m ↦ (m.creator, m.routes, ()))

/-- Sets the route of a domain. -/
structure MsgSetRoutingIsmDomain where
  ismId : String
  route : Option Route
  owner : String

def MsgSetRoutingIsmDomain.shape : Wire.Shape MsgSetRoutingIsmDomain :=
  .mk "MsgSetRoutingIsmDomain"
    (.cons 1 "ism_id" .string <|
      .cons 2 "route" (.message Route.shape) <|
      .cons 3 "owner" .string .nil)
    (fun (ismId, route, owner, _) ↦ ⟨ismId, route, owner⟩)
    (fun m ↦ (m.ismId, m.route, m.owner, ()))

/-- Removes the route of a domain. -/
structure MsgRemoveRoutingIsmDomain where
  ismId : String
  domain : UInt32
  owner : String

def MsgRemoveRoutingIsmDomain.shape : Wire.Shape MsgRemoveRoutingIsmDomain :=
  .mk "MsgRemoveRoutingIsmDomain"
    (.cons 1 "ism_id" .string <|
      .cons 2 "domain" .uint32 <|
      .cons 3 "owner" .string .nil)
    (fun (ismId, domain, owner, _) ↦ ⟨ismId, domain, owner⟩)
    (fun m ↦ (m.ismId, m.domain, m.owner, ()))

/-- Changes or gives up the ownership of a routing module. -/
structure MsgUpdateRoutingIsmOwner where
  ismId : String
  owner : String
  newOwner : String
  renounceOwnership : Bool

def MsgUpdateRoutingIsmOwner.shape : Wire.Shape MsgUpdateRoutingIsmOwner :=
  .mk "MsgUpdateRoutingIsmOwner"
    (.cons 1 "ism_id" .string <|
      .cons 2 "owner" .string <|
      .cons 3 "new_owner" .string <|
      .cons 4 "renounce_ownership" .bool .nil)
    (fun (ismId, owner, newOwner, renounceOwnership, _) ↦
      ⟨ismId, owner, newOwner, renounceOwnership⟩)
    (fun m ↦ (m.ismId, m.owner, m.newOwner, m.renounceOwnership, ()))

/-! ### The kinds of messages -/

inductive Kind where
  | createMessageIdMultisig
  | createMerkleRootMultisig
  | createNoop
  | announceValidator
  | createRouting
  | setRoutingDomain
  | removeRoutingDomain
  | updateRoutingOwner
  deriving DecidableEq

namespace Kind

def all : List Kind :=
    [.createMessageIdMultisig, .createMerkleRootMultisig, .createNoop, .announceValidator,
    .createRouting, .setRoutingDomain, .removeRoutingDomain, .updateRoutingOwner]

@[reducible] def Body : Kind → Type
  | .createMessageIdMultisig => MsgCreateMessageIdMultisigIsm
  | .createMerkleRootMultisig => MsgCreateMerkleRootMultisigIsm
  | .createNoop => MsgCreateNoopIsm
  | .announceValidator => MsgAnnounceValidator
  | .createRouting => MsgCreateRoutingIsm
  | .setRoutingDomain => MsgSetRoutingIsmDomain
  | .removeRoutingDomain => MsgRemoveRoutingIsmDomain
  | .updateRoutingOwner => MsgUpdateRoutingIsmOwner

def typeUrl : Kind → String
  | .createMessageIdMultisig =>
    "/hyperlane.core.interchain_security.v1.MsgCreateMessageIdMultisigIsm"
  | .createMerkleRootMultisig =>
    "/hyperlane.core.interchain_security.v1.MsgCreateMerkleRootMultisigIsm"
  | .createNoop => "/hyperlane.core.interchain_security.v1.MsgCreateNoopIsm"
  | .announceValidator => "/hyperlane.core.interchain_security.v1.MsgAnnounceValidator"
  | .createRouting => "/hyperlane.core.interchain_security.v1.MsgCreateRoutingIsm"
  | .setRoutingDomain => "/hyperlane.core.interchain_security.v1.MsgSetRoutingIsmDomain"
  | .removeRoutingDomain => "/hyperlane.core.interchain_security.v1.MsgRemoveRoutingIsmDomain"
  | .updateRoutingOwner => "/hyperlane.core.interchain_security.v1.MsgUpdateRoutingIsmOwner"

def tag : Kind → Tag
  | .createMessageIdMultisig => .createMessageIdMultisigIsm
  | .createMerkleRootMultisig => .createMerkleRootMultisigIsm
  | .createNoop => .createNoopIsm
  | .announceValidator => .announceValidator
  | .createRouting => .createRoutingIsm
  | .setRoutingDomain => .setRoutingIsmDomain
  | .removeRoutingDomain => .removeRoutingIsmDomain
  | .updateRoutingOwner => .updateRoutingIsmOwner

def shape : (kind : Kind) → Wire.Shape kind.Body
  | .createMessageIdMultisig => MsgCreateMessageIdMultisigIsm.shape
  | .createMerkleRootMultisig => MsgCreateMerkleRootMultisigIsm.shape
  | .createNoop => MsgCreateNoopIsm.shape
  | .announceValidator => MsgAnnounceValidator.shape
  | .createRouting => MsgCreateRoutingIsm.shape
  | .setRoutingDomain => MsgSetRoutingIsmDomain.shape
  | .removeRoutingDomain => MsgRemoveRoutingIsmDomain.shape
  | .updateRoutingOwner => MsgUpdateRoutingIsmOwner.shape

def signers : (kind : Kind) → kind.Body → List String
  | .createMessageIdMultisig, m => [m.creator]
  | .createMerkleRootMultisig, m => [m.creator]
  | .createNoop, m => [m.creator]
  | .announceValidator, m => [m.creator]
  | .createRouting, m => [m.creator]
  | .setRoutingDomain, m => [m.owner]
  | .removeRoutingDomain, m => [m.owner]
  | .updateRoutingOwner, m => [m.owner]

end Kind

end ChainRecord.SecurityModule
