import ChainRecord.Schema.Tag
import ChainRecord.Wire.Shape

/-!
# Messages about mailboxes

Mailboxes deliver messages between chains.
-/

namespace ChainRecord.Mailbox

/-- Creates a mailbox. -/
structure MsgCreateMailbox where
  owner : String
  defaultIsm : String
  defaultHook : String
  requiredHook : String
  localDomain : UInt32

def MsgCreateMailbox.shape : Wire.Shape MsgCreateMailbox :=
  .mk "MsgCreateMailbox"
    (.cons 1 "owner" .string <|
      .cons 2 "default_ism" .string <|
      .cons 3 "default_hook" .string <|
      .cons 4 "required_hook" .string <|
      .cons 5 "local_domain" .uint32 .nil)
    (fun (owner, defaultIsm, defaultHook, requiredHook, localDomain, _) ↦
      ⟨owner, defaultIsm, defaultHook, requiredHook, localDomain⟩)
    (fun m ↦ (m.owner, m.defaultIsm, m.defaultHook, m.requiredHook, m.localDomain, ()))

/-- Changes the defaults or the owner of a mailbox. -/
structure MsgSetMailbox where
  owner : String
  mailboxId : String
  defaultIsm : String
  defaultHook : String
  requiredHook : String
  newOwner : String
  renounceOwnership : Bool

def MsgSetMailbox.shape : Wire.Shape MsgSetMailbox :=
  .mk "MsgSetMailbox"
    (.cons 1 "owner" .string <|
      .cons 2 "mailbox_id" .string <|
      .cons 3 "default_ism" .string <|
      .cons 4 "default_hook" .string <|
      .cons 5 "required_hook" .string <|
      .cons 6 "new_owner" .string <|
      .cons 7 "renounce_ownership" .bool .nil)
    (fun (owner, mailboxId, defaultIsm, defaultHook, requiredHook, newOwner, renounceOwnership, _) ↦
      ⟨owner, mailboxId, defaultIsm, defaultHook, requiredHook, newOwner, renounceOwnership⟩)
    (fun m ↦
      (m.owner, m.mailboxId, m.defaultIsm, m.defaultHook, m.requiredHook, m.newOwner,
       m.renounceOwnership, ()))

/-- Delivers a message through a mailbox. -/
structure MsgProcessMessage where
  mailboxId : String
  relayer : String
  metadata : String
  message : String

def MsgProcessMessage.shape : Wire.Shape MsgProcessMessage :=
  .mk "MsgProcessMessage"
    (.cons 1 "mailbox_id" .string <|
      .cons 2 "relayer" .string <|
      .cons 3 "metadata" .string <|
      .cons 4 "message" .string .nil)
    (fun (mailboxId, relayer, metadata, message, _) ↦ ⟨mailboxId, relayer, metadata, message⟩)
    (fun m ↦ (m.mailboxId, m.relayer, m.metadata, m.message, ()))

/-! ### The kinds of messages -/

inductive Kind where
  | create
  | set
  | process
  deriving DecidableEq

namespace Kind

def all : List Kind :=
  [.create, .set, .process]

@[reducible] def Body : Kind → Type
  | .create => MsgCreateMailbox
  | .set => MsgSetMailbox
  | .process => MsgProcessMessage

def typeUrl : Kind → String
  | .create => "/hyperlane.core.v1.MsgCreateMailbox"
  | .set => "/hyperlane.core.v1.MsgSetMailbox"
  | .process => "/hyperlane.core.v1.MsgProcessMessage"

def tag : Kind → Tag
  | .create => .createMailbox
  | .set => .setMailbox
  | .process => .processMessage

def shape : (kind : Kind) → Wire.Shape kind.Body
  | .create => MsgCreateMailbox.shape
  | .set => MsgSetMailbox.shape
  | .process => MsgProcessMessage.shape

def signers : (kind : Kind) → kind.Body → List String
  | .create, m => [m.owner]
  | .set, m => [m.owner]
  | .process, m => [m.relayer]

end Kind

end ChainRecord.Mailbox
