import ChainRecord.Reading.Scope

/-!
# Reading messages of the authorization module

A permission is recorded by the type URL of the messages it permits and by its field map. A
permission of an unknown type, or one whose bytes are none, has an empty type URL and an empty field
map; it never makes the message fail. Messages sent by permission are listed, but their addresses
are not collected.
-/

namespace ChainRecord.Authz

open Reading

/-- What is recorded of a permission. -/
structure Permission where
  /-- The type URL of the messages it permits. -/
  authorization : String := ""
  /-- Its field map. -/
  params : Json.Members := []

/-- The type URL of the messages that a permission to act on stake permits, by its number. -/
def stakeUrl (authorizationType : Int32) : String :=
  match authorizationType.toInt with
  | 1 => "/cosmos.staking.v1beta1.MsgDelegate"
  | 2 => "/cosmos.staking.v1beta1.MsgUndelegate"
  | 3 => "/cosmos.staking.v1beta1.MsgBeginRedelegate"
  | 4 => "/cosmos.staking.v1beta1.MsgCancelUnbondingDelegation"
  | _ => ""

/-- The permission in bytes of a given type, if they are one. -/
def permissionOf? (any : Any) : Option Permission :=
  if any.typeUrl = "/cosmos.authz.v1beta1.GenericAuthorization" then
    (GenericAuthorization.shape.decode any.value).toOption.map fun a ↦
      ⟨a.msg, GenericAuthorization.shape.fieldMap a⟩
  else if any.typeUrl = "/cosmos.bank.v1beta1.SendAuthorization" then
    (Bank.SendAuthorization.shape.decode any.value).toOption.map fun a ↦
      ⟨"/cosmos.bank.v1beta1.MsgSend", Bank.SendAuthorization.shape.fieldMap a⟩
  else if any.typeUrl = "/cosmos.staking.v1beta1.StakeAuthorization" then
    (Staking.StakeAuthorization.shape.decode any.value).toOption.map fun a ↦
      ⟨stakeUrl a.authorizationType, Staking.StakeAuthorization.shape.fieldMap a⟩
  else none

/-- The permission of a grant. -/
def permissionOf (grant : Grant) : Permission :=
  (grant.authorization.bind permissionOf?).getD {}

/-- The record of a permission that is given. -/
def given (scope : Scope) (m : MsgGrant) : Except Inconsistency Record.Grant := do
  let grant := m.grant.getD Grant.shape.absent
  let expiration ← grant.expiration.mapM timestamp
  let permission := permissionOf grant
  .ok
    { height := scope.block.height
      time := scope.block.time
      granter := m.granter
      grantee := m.grantee
      authorization := permission.authorization
      expiration
      revoked := false
      revokeHeight := none
      params := permission.params }

/-- The record of a permission that is taken back. -/
def taken (scope : Scope) (m : MsgRevoke) : Record.Grant where
  height := scope.block.height
  time := scope.block.time
  granter := m.granter
  grantee := m.grantee
  authorization := m.msgTypeUrl
  expiration := none
  revoked := true
  revokeHeight := some scope.block.height
  params := []

/-- Reads a message. -/
def read (scope : Scope) : (kind : Kind) → kind.Body → Except Inconsistency Findings
  | .grant, m => do
    let grant ← given scope m
    .ok
      { addresses := scope.addresses [(.granter, m.granter), (.grantee, m.grantee)]
        entities := { grant := some grant } }
  | .exec, m =>
    .ok
      { addresses := scope.addresses [(.grantee, m.grantee)]
        internalMessages := m.msgs.map internalName }
  | .revoke, m =>
    .ok
      { addresses := scope.addresses [(.granter, m.granter), (.grantee, m.grantee)]
        entities := { grant := some (taken scope m) } }

end ChainRecord.Authz
