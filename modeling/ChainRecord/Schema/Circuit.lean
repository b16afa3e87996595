import ChainRecord.Schema.Tag
import ChainRecord.Wire.Shape

/-!
# Messages of the circuit breaker

Types of messages can be switched off and on again by accounts with the permission to do so.
-/

namespace ChainRecord.Circuit

/-- What an account may switch. -/
structure Permissions where
  level : Int32
  limitTypeUrls : List String

def Permissions.shape : Wire.Shape Permissions :=
  .mk "Permissions"
    (.cons 1 "level" .int32 <|
      .cons 2 "limit_type_urls" .strings .nil)
    (fun (level, limitTypeUrls, _) ↦ ⟨level, limitTypeUrls⟩)
    (fun m ↦ (m.level, m.limitTypeUrls, ()))

/-- Gives permissions to an account. -/
structure MsgAuthorizeCircuitBreaker where
  granter : String
  grantee : String
  permissions : Option Permissions

def MsgAuthorizeCircuitBreaker.shape : Wire.Shape MsgAuthorizeCircuitBreaker :=
  .mk "MsgAuthorizeCircuitBreaker"
    (.cons 1 "granter" .string <|
      .cons 2 "grantee" .string <|
      .cons 3 "permissions" (.message Permissions.shape) .nil)
    (fun (granter, grantee, permissions, _) ↦ ⟨granter, grantee, permissions⟩)
    (fun m ↦ (m.granter, m.grantee, m.permissions, ()))

/-- Switches types of messages off. -/
structure MsgTripCircuitBreaker where
  authority : String
  msgTypeUrls : List String

def MsgTripCircuitBreaker.shape : Wire.Shape MsgTripCircuitBreaker :=
  .mk "MsgTripCircuitBreaker"
    (.cons 1 "authority" .string <|
      .cons 2 "msg_type_urls" .strings .nil)
    (fun (authority, msgTypeUrls, _) ↦ ⟨authority, msgTypeUrls⟩)
    (fun m ↦ (m.authority, m.msgTypeUrls, ()))

/-- Switches types of messages on again. -/
structure MsgResetCircuitBreaker where
  authority : String
  msgTypeUrls : List String

def MsgResetCircuitBreaker.shape : Wire.Shape MsgResetCircuitBreaker :=
  .mk "MsgResetCircuitBreaker"
    (.cons 1 "authority" .string <|
      .cons 3 "msg_type_urls" .strings .nil)
    (fun (authority, msgTypeUrls, _) ↦ ⟨authority, msgTypeUrls⟩)
    (fun m ↦ (m.authority, m.msgTypeUrls, ()))

/-! ### The kinds of messages -/

inductive Kind where
  | authorize
  | trip
  | reset
  deriving DecidableEq

namespace Kind

def all : List Kind :=
  [.authorize, .trip, .reset]

@[reducible] def Body : Kind → Type
  | .authorize => MsgAuthorizeCircuitBreaker
  | .trip => MsgTripCircuitBreaker
  | .reset => MsgResetCircuitBreaker

def typeUrl : Kind → String
  | .authorize => "/cosmos.circuit.v1.MsgAuthorizeCircuitBreaker"
  | .trip => "/cosmos.circuit.v1.MsgTripCircuitBreaker"
  | .reset => "/cosmos.circuit.v1.MsgResetCircuitBreaker"

def tag : Kind → Tag
  | .authorize => .authorizeCircuitBreaker
  | .trip => .tripCircuitBreaker
  | .reset => .resetCircuitBreaker

def shape : (kind : Kind) → Wire.Shape kind.Body
  | .authorize => MsgAuthorizeCircuitBreaker.shape
  | .trip => MsgTripCircuitBreaker.shape
  | .reset => MsgResetCircuitBreaker.shape

def signers : (kind : Kind) → kind.Body → List String
  | .authorize, m => [m.granter]
  | .trip, m => [m.authority]
  | .reset, m => [m.authority]

end Kind

end ChainRecord.Circuit
