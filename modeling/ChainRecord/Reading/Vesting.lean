import ChainRecord.Reading.Scope

/-!
# Reading messages of the vesting module

The end of a periodic schedule is its start and the lengths of all periods. Lengths come from the
message and may be negative, so every partial sum is checked; a sum that leaves the range of
sixty-four bits is reported where it would stand if each step stopped at the end of the range.
-/

namespace ChainRecord.Vesting

open Reading

/-- The least number of seconds of sixty-four bits. -/
def minSeconds : Int := -9223372036854775808

/-- The greatest number of seconds of sixty-four bits. -/
def maxSeconds : Int := 9223372036854775807

/-- Whether a number of seconds has sixty-four bits. -/
def isSeconds (n : Int) : Bool :=
  minSeconds ≤ n && n ≤ maxSeconds

/-- The sum of a start and lengths, if all partial sums are numbers of seconds. -/
def endOf? : Int → List Int → Option Int
  | start, [] => some start
  | start, length :: lengths =>
    if isSeconds (start + length) then endOf? (start + length) lengths else none

/-- A number of seconds, moved into the range. -/
def saturate (n : Int) : Int :=
  if n < minSeconds then minSeconds else if maxSeconds < n then maxSeconds else n

/-- The sum of a start and lengths, each step of which stops at the end of the range. -/
def saturatedEnd (start : Int) (lengths : List Int) : Int :=
  lengths.foldl (fun sum length ↦ saturate (sum + length)) start

/-- The end of a schedule. -/
def endOf (start : Int) (lengths : List Int) : Except Inconsistency Int :=
  match endOf? start lengths with
  | some seconds => .ok seconds
  | none => .error (.invalidTimestamp (saturatedEnd start lengths) 0)

/-- The record of a period. -/
def readPeriod (settings : Settings) (period : Period) :
    Except Inconsistency Record.VestingPeriod := do
  .ok { length := period.length, amount := ← nativeAmount settings period.amount }

/-- The account that a message creates. -/
def createdAccount (scope : Scope) (m : MsgCreateVestingAccount) :
    Except Inconsistency Record.VestingAccount := do
  let amount ← nativeAmount scope.settings m.amount
  let endTime ← unixTime m.endTime.toInt
  .ok
    { address := m.toAddress
      vestingType := if m.delayed then .delayed else .continuous
      amount
      startTime := if m.delayed then none else some scope.block.time
      endTime := some endTime
      periods := []
      height := scope.block.height }

/-- The account that a message locks. -/
def lockedAccount (scope : Scope) (m : MsgCreatePermanentLockedAccount) :
    Except Inconsistency Record.VestingAccount := do
  let amount ← nativeAmount scope.settings m.amount
  .ok
    { address := m.toAddress
      vestingType := .permanent
      amount
      startTime := none
      endTime := none
      periods := []
      height := scope.block.height }

/-- The account that a message creates with a schedule. -/
def periodicAccount (scope : Scope) (m : MsgCreatePeriodicVestingAccount) :
    Except Inconsistency Record.VestingAccount := do
  let periods ← m.vestingPeriods.mapM (readPeriod scope.settings)
  let endSeconds ← endOf m.startTime.toInt (m.vestingPeriods.map (·.length.toInt))
  let startTime ← unixTime m.startTime.toInt
  let endTime ← unixTime endSeconds
  .ok
    { address := m.toAddress
      vestingType := .periodic
      amount := Decimal.sum (periods.map (·.amount))
      startTime := some startTime
      endTime := some endTime
      periods
      height := scope.block.height }

/-- What is found when an account is created. -/
def accountFindings (scope : Scope) (sender recipient : String) (account : Record.VestingAccount) :
    Findings where
  addresses := scope.addresses [(.fromAddress, sender), (.toAddress, recipient)]
  entities := { vestingAccount := some account }

/-- Reads a message. -/
def read (scope : Scope) : (kind : Kind) → kind.Body → Except Inconsistency Findings
  | .createVestingAccount, m =>
    (createdAccount scope m).map (accountFindings scope m.fromAddress m.toAddress)
  | .createPermanentLockedAccount, m =>
    (lockedAccount scope m).map (accountFindings scope m.fromAddress m.toAddress)
  | .createPeriodicVestingAccount, m =>
    (periodicAccount scope m).map (accountFindings scope m.fromAddress m.toAddress)

end ChainRecord.Vesting
