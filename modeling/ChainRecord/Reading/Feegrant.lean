import ChainRecord.Reading.Scope

/-!
# Reading messages of the fee grant module

An allowance is recorded by its field map and the time it expires. A periodic allowance expires with
its basic part, and a restricted one with the allowance it restricts. A restriction of a restriction
does not expire: only one level is looked into. An allowance of an unknown type, or one whose bytes
are none, has no field map and does not expire; it never makes the message fail.
-/

namespace ChainRecord.Feegrant

open Reading

/-- What is recorded of an allowance. -/
structure Allowance where
  expiration : Option Timestamp := none
  params : Json.Members := []

/-- The type URL of restricted allowances. -/
def restrictedUrl : String := "/cosmos.feegrant.v1beta1.AllowedMsgAllowance"

/-- The allowance in bytes of a given type, unless it is a restricted one. -/
def plainAllowanceOf (any : Any) : Allowance :=
  if any.typeUrl = "/cosmos.feegrant.v1beta1.BasicAllowance" then
    match BasicAllowance.shape.decode any.value with
    | .ok a => ⟨a.expiration, BasicAllowance.shape.fieldMap a⟩
    | .error _ => {}
  else if any.typeUrl = "/cosmos.feegrant.v1beta1.PeriodicAllowance" then
    match PeriodicAllowance.shape.decode any.value with
    | .ok a => ⟨a.basic.bind (·.expiration), PeriodicAllowance.shape.fieldMap a⟩
    | .error _ => {}
  else {}

/-- The allowance in bytes of a given type. -/
def allowanceOf (any : Any) : Allowance :=
  if any.typeUrl = restrictedUrl then
    match AllowedMsgAllowance.shape.decode any.value with
    | .ok a =>
      ⟨a.allowance.bind fun inner ↦ (plainAllowanceOf inner).expiration,
        AllowedMsgAllowance.shape.fieldMap a⟩
    | .error _ => {}
  else plainAllowanceOf any

/-- The record of an allowance that is given. -/
def given (scope : Scope) (m : MsgGrantAllowance) : Except Inconsistency Record.Grant := do
  let allowance := (m.allowance.map allowanceOf).getD {}
  let expiration ← allowance.expiration.mapM timestamp
  .ok
    { height := scope.block.height
      time := scope.block.time
      granter := m.granter
      grantee := m.grantee
      authorization := Record.Grant.feeAuthorization
      expiration
      revoked := false
      revokeHeight := none
      params := allowance.params }

/-- The record of an allowance that is taken back. -/
def taken (scope : Scope) (m : MsgRevokeAllowance) : Record.Grant where
  height := scope.block.height
  time := scope.block.time
  granter := m.granter
  grantee := m.grantee
  authorization := Record.Grant.feeAuthorization
  expiration := none
  revoked := true
  revokeHeight := some scope.block.height
  params := []

/-- Reads a message. -/
def read (scope : Scope) : (kind : Kind) → kind.Body → Except Inconsistency Findings
  | .grantAllowance, m => do
    let grant ← given scope m
    .ok
      { addresses := scope.addresses [(.granter, m.granter), (.grantee, m.grantee)]
        entities := { grant := some grant } }
  | .revokeAllowance, m =>
    .ok
      { addresses := scope.addresses [(.granter, m.granter), (.grantee, m.grantee)]
        entities := { grant := some (taken scope m) } }
  | .pruneAllowances, m => .ok (scope.only [(.pruner, m.pruner)])

end ChainRecord.Feegrant
