import ChainRecord.Decimal
import ChainRecord.Time

/-!
# Records of vesting accounts
-/

namespace ChainRecord.Record

/-- When coins become free. -/
inductive VestingType where
  /-- All at the end. -/
  | delayed
  /-- Steadily up to the end. -/
  | continuous
  /-- Never. -/
  | permanent
  /-- Period by period. -/
  | periodic
  deriving DecidableEq

/-- The name of a type. -/
def VestingType.name : VestingType → String
  | .delayed => "delayed"
  | .continuous => "continuous"
  | .permanent => "permanent"
  | .periodic => "periodic"

/-- A period. -/
structure VestingPeriod where
  /-- Seconds since the end of the period before. -/
  length : Int64
  amount : Decimal

/-- A vesting account that was created. -/
structure VestingAccount where
  address : String
  vestingType : VestingType
  /-- All of its coins of the native denomination. -/
  amount : Decimal
  startTime : Option Time
  endTime : Option Time
  periods : List VestingPeriod
  height : UInt64

end ChainRecord.Record
