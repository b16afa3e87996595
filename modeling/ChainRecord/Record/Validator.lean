import ChainRecord.Decimal

/-!
# Records of validators
-/

namespace ChainRecord.Record

/-- A validator as a message creates or changes it. What the message does not say is empty or
zero. -/
structure Validator where
  delegator : String := ""
  address : String
  moniker : String := ""
  identity : String := ""
  website : String := ""
  contacts : String := ""
  details : String := ""
  rate : Decimal
  maxRate : Decimal := Decimal.zero
  maxChangeRate : Decimal := Decimal.zero
  minSelfDelegation : Decimal
  stake : Decimal := Decimal.zero
  height : UInt64

end ChainRecord.Record
