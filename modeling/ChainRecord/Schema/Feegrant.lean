import ChainRecord.Schema.Base
import ChainRecord.Schema.Tag

/-!
# Messages of the fee grant module

Allowances to have fees paid by another account. An allowance is wrapped, and a restricted
allowance wraps another one.
-/

namespace ChainRecord.Feegrant

/-- An allowance up to a limit and a time. -/
structure BasicAllowance where
  spendLimit : List Coin
  expiration : Option Timestamp

def BasicAllowance.shape : Wire.Shape BasicAllowance :=
  .mk "BasicAllowance"
    (.cons 1 "spend_limit" (.messages Coin.shape) <|
      .cons 2 "expiration" (.message Timestamp.shape) .nil)
    (fun (spendLimit, expiration, _) ↦ ⟨spendLimit, expiration⟩)
    (fun m ↦ (m.spendLimit, m.expiration, ()))

/-- An allowance that is renewed after each period. -/
structure PeriodicAllowance where
  basic : Option BasicAllowance
  period : Option Duration
  periodSpendLimit : List Coin
  periodCanSpend : List Coin
  periodReset : Option Timestamp

def PeriodicAllowance.shape : Wire.Shape PeriodicAllowance :=
  .mk "PeriodicAllowance"
    (.cons 1 "basic" (.message BasicAllowance.shape) <|
      .cons 2 "period" (.message Duration.shape) <|
      .cons 3 "period_spend_limit" (.messages Coin.shape) <|
      .cons 4 "period_can_spend" (.messages Coin.shape) <|
      .cons 5 "period_reset" (.message Timestamp.shape) .nil)
    (fun (basic, period, periodSpendLimit, periodCanSpend, periodReset, _) ↦
      ⟨basic, period, periodSpendLimit, periodCanSpend, periodReset⟩)
    (fun m ↦ (m.basic, m.period, m.periodSpendLimit, m.periodCanSpend, m.periodReset, ()))

/-- An allowance restricted to messages of listed types. -/
structure AllowedMsgAllowance where
  allowance : Option Any
  allowedMessages : List String

def AllowedMsgAllowance.shape : Wire.Shape AllowedMsgAllowance :=
  .mk "AllowedMsgAllowance"
    (.cons 1 "allowance" (.message Any.shape) <|
      .cons 2 "allowed_messages" .strings .nil)
    (fun (allowance, allowedMessages, _) ↦ ⟨allowance, allowedMessages⟩)
    (fun m ↦ (m.allowance, m.allowedMessages, ()))

/-- Grants an allowance. -/
structure MsgGrantAllowance where
  granter : String
  grantee : String
  allowance : Option Any

def MsgGrantAllowance.shape : Wire.Shape MsgGrantAllowance :=
  .mk "MsgGrantAllowance"
    (.cons 1 "granter" .string <|
      .cons 2 "grantee" .string <|
      .cons 3 "allowance" (.message Any.shape) .nil)
    (fun (granter, grantee, allowance, _) ↦ ⟨granter, grantee, allowance⟩)
    (fun m ↦ (m.granter, m.grantee, m.allowance, ()))

/-- Revokes an allowance. -/
structure MsgRevokeAllowance where
  granter : String
  grantee : String

def MsgRevokeAllowance.shape : Wire.Shape MsgRevokeAllowance :=
  .mk "MsgRevokeAllowance"
    (.cons 1 "granter" .string <|
      .cons 2 "grantee" .string .nil)
    (fun (granter, grantee, _) ↦ ⟨granter, grantee⟩)
    (fun m ↦ (m.granter, m.grantee, ()))

/-- Removes expired allowances. -/
structure MsgPruneAllowances where
  pruner : String

def MsgPruneAllowances.shape : Wire.Shape MsgPruneAllowances :=
  .mk "MsgPruneAllowances"
    (.cons 1 "pruner" .string .nil)
    (fun (pruner, _) ↦ ⟨pruner⟩)
    (fun m ↦ (m.pruner, ()))

/-! ### The kinds of messages -/

inductive Kind where
  | grantAllowance
  | revokeAllowance
  | pruneAllowances
  deriving DecidableEq

namespace Kind

def all : List Kind :=
  [.grantAllowance, .revokeAllowance, .pruneAllowances]

@[reducible] def Body : Kind → Type
  | .grantAllowance => MsgGrantAllowance
  | .revokeAllowance => MsgRevokeAllowance
  | .pruneAllowances => MsgPruneAllowances

def typeUrl : Kind → String
  | .grantAllowance => "/cosmos.feegrant.v1beta1.MsgGrantAllowance"
  | .revokeAllowance => "/cosmos.feegrant.v1beta1.MsgRevokeAllowance"
  | .pruneAllowances => "/cosmos.feegrant.v1beta1.MsgPruneAllowances"

def tag : Kind → Tag
  | .grantAllowance => .grantAllowance
  | .revokeAllowance => .revokeAllowance
  | .pruneAllowances => .pruneAllowances

def shape : (kind : Kind) → Wire.Shape kind.Body
  | .grantAllowance => MsgGrantAllowance.shape
  | .revokeAllowance => MsgRevokeAllowance.shape
  | .pruneAllowances => MsgPruneAllowances.shape

def signers : (kind : Kind) → kind.Body → List String
  | .grantAllowance, m => [m.granter]
  | .revokeAllowance, m => [m.granter]
  | .pruneAllowances, m => [m.pruner]

end Kind

end ChainRecord.Feegrant
