import ChainRecord.Schema.Base
import ChainRecord.Schema.Tag

/-!
# Messages of the authorization module

Permissions to send messages in the name of another account, and messages sent by such a
permission.
-/

namespace ChainRecord.Authz

/-- Permission to send any message of a type. -/
structure GenericAuthorization where
  msg : String

def GenericAuthorization.shape : Wire.Shape GenericAuthorization :=
  .mk "GenericAuthorization"
    (.cons 1 "msg" .string .nil)
    (fun (msg, _) ↦ ⟨msg⟩)
    (fun m ↦ (m.msg, ()))

/-- A wrapped permission and the time it expires, if it does. -/
structure Grant where
  authorization : Option Any
  expiration : Option Timestamp

def Grant.shape : Wire.Shape Grant :=
  .mk "Grant"
    (.cons 1 "authorization" (.message Any.shape) <|
      .cons 2 "expiration" (.message Timestamp.shape) .nil)
    (fun (authorization, expiration, _) ↦ ⟨authorization, expiration⟩)
    (fun m ↦ (m.authorization, m.expiration, ()))

/-- Grants a permission. -/
structure MsgGrant where
  granter : String
  grantee : String
  grant : Option Grant

def MsgGrant.shape : Wire.Shape MsgGrant :=
  .mk "MsgGrant"
    (.cons 1 "granter" .string <|
      .cons 2 "grantee" .string <|
      .cons 3 "grant" (.message Grant.shape) .nil)
    (fun (granter, grantee, grant, _) ↦ ⟨granter, grantee, grant⟩)
    (fun m ↦ (m.granter, m.grantee, m.grant, ()))

/-- Sends messages by permission of their signers. -/
structure MsgExec where
  grantee : String
  msgs : List Any

def MsgExec.shape : Wire.Shape MsgExec :=
  .mk "MsgExec"
    (.cons 1 "grantee" .string <|
      .cons 2 "msgs" (.messages Any.shape) .nil)
    (fun (grantee, msgs, _) ↦ ⟨grantee, msgs⟩)
    (fun m ↦ (m.grantee, m.msgs, ()))

/-- Revokes the permission for a type of message. -/
structure MsgRevoke where
  granter : String
  grantee : String
  msgTypeUrl : String

def MsgRevoke.shape : Wire.Shape MsgRevoke :=
  .mk "MsgRevoke"
    (.cons 1 "granter" .string <|
      .cons 2 "grantee" .string <|
      .cons 3 "msg_type_url" .string .nil)
    (fun (granter, grantee, msgTypeUrl, _) ↦ ⟨granter, grantee, msgTypeUrl⟩)
    (fun m ↦ (m.granter, m.grantee, m.msgTypeUrl, ()))

/-! ### The kinds of messages -/

inductive Kind where
  | grant
  | exec
  | revoke
  deriving DecidableEq

namespace Kind

def all : List Kind :=
  [.grant, .exec, .revoke]

@[reducible] def Body : Kind → Type
  | .grant => MsgGrant
  | .exec => MsgExec
  | .revoke => MsgRevoke

def typeUrl : Kind → String
  | .grant => "/cosmos.authz.v1beta1.MsgGrant"
  | .exec => "/cosmos.authz.v1beta1.MsgExec"
  | .revoke => "/cosmos.authz.v1beta1.MsgRevoke"

def tag : Kind → Tag
  | .grant => .grant
  | .exec => .exec
  | .revoke => .revoke

def shape : (kind : Kind) → Wire.Shape kind.Body
  | .grant => MsgGrant.shape
  | .exec => MsgExec.shape
  | .revoke => MsgRevoke.shape

def signers : (kind : Kind) → kind.Body → List String
  | .grant, m => [m.granter]
  | .exec, m => [m.grantee]
  | .revoke, m => [m.granter]

end Kind

end ChainRecord.Authz
