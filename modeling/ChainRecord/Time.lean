/-!
# Points in time

A point in time counts seconds from 1970-01-01T00:00:00Z and nanoseconds within the second. A leap
second is written on the second before it: there, and only on the last second of a minute, the
nanoseconds run on to `1999999999`.

The representable seconds are those of the proleptic Gregorian years from -262143 to 262142.
-/

namespace ChainRecord

/-- A point in time. -/
structure Time where
  /-- Seconds since the epoch. -/
  seconds : Int
  /-- Nanoseconds within the second. -/
  nanos : Nat
  deriving DecidableEq, Repr

namespace Time

/-- The first representable second. -/
def firstSecond : Int := -8334601228800

/-- The last representable second. -/
def lastSecond : Int := 8210266876799

/-- Whether a second is representable. -/
def isRepresentable (seconds : Int) : Bool :=
  firstSecond ≤ seconds && seconds ≤ lastSecond

/-- The point in time of a second and its nanoseconds, if there is one. -/
def ofUnix? (seconds : Int) (nanos : Nat) : Option Time :=
  if isRepresentable seconds &&
      (nanos < 1000000000 || (nanos < 2000000000 && seconds % 60 == 59)) then
    some ⟨seconds, nanos⟩
  else none

end Time

end ChainRecord
