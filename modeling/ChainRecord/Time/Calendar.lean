import ChainRecord.Time
import ChainRecord.Decimal.Numeral

/-!
# Calendar dates and their internet format

A time of the form `2024-03-01T10:15:00.5-08:30`: a date of the proleptic Gregorian calendar with a
year of four digits, a letter `T` or a space, a time of day, an optional fraction of the second,
and either `Z` or the offset of the local clock. Digits of the fraction behind the ninth are
dropped, second 60 is the leap second of any minute, and nothing may follow the offset, which is
less than a day.
-/

namespace ChainRecord.Time

/-- Whether a year has a 29th of February. -/
def isLeapYear (year : Nat) : Bool :=
  (year % 4 == 0 && year % 100 != 0) || year % 400 == 0

/-- Number of days of a month counted from one; zero for no month. -/
def daysInMonth (year month : Nat) : Nat :=
  match month with
  | 1 | 3 | 5 | 7 | 8 | 10 | 12 => 31
  | 4 | 6 | 9 | 11 => 30
  | 2 => if isLeapYear year then 29 else 28
  | _ => 0

/-- Number of days in the years from 0 up to `year`, which itself is not counted. -/
def daysBeforeYear (year : Nat) : Nat :=
  365 * year + (year + 3) / 4 - (year + 99) / 100 + (year + 399) / 400

/-- Number of days in the months of a year before `month`. -/
def daysBeforeMonth (year month : Nat) : Nat :=
  (List.range (month - 1)).foldl (fun days m ↦ days + daysInMonth year (m + 1)) 0

/-- Days from 0000-01-01 to the epoch. -/
def epochDay : Int := 719528

/-- Days from the epoch to a date. -/
def dayNumber (year month day : Nat) : Int :=
  daysBeforeYear year + daysBeforeMonth year month + day - 1 - epochDay

/-- Reads exactly `count` digits. -/
def readDigits (count : Nat) (cs : List Char) : Option (Nat × List Char) :=
  let digits := cs.take count
  if digits.length = count ∧ digits.all Char.isDigit then
    some (Numeral.digitsValue digits, cs.drop count)
  else none

/-- Reads one of the given characters. -/
def readOneOf (allowed : List Char) : List Char → Option (List Char)
  | [] => none
  | c :: cs => if allowed.contains c then some cs else none

/-- Reads the fraction of a second, in nanoseconds. Without a point it is zero. -/
def readFraction : List Char → Option (Nat × List Char)
  | '.' :: cs =>
    let (digits, rest) := cs.span Char.isDigit
    if digits.isEmpty then none
    else
      let places := digits.take 9
      some (Numeral.digitsValue places * Decimal.tenTo (9 - places.length), rest)
  | cs => some (0, cs)

/-- Reads the offset of the local clock, in seconds. Its minus sign may also be the mathematical
one. -/
def readOffset : List Char → Option (Int × List Char)
  | [] => none
  | c :: cs =>
    if c = 'Z' ∨ c = 'z' then some (0, cs)
    else if c = '+' ∨ c = '-' ∨ c = '\u2212' then do
      let (hours, cs) ← readDigits 2 cs
      let cs ← readOneOf [':'] cs
      let (minutes, cs) ← readDigits 2 cs
      if hours ≤ 23 ∧ minutes ≤ 59 then
        some (Numeral.signed (c ≠ '+') (3600 * hours + 60 * minutes), cs)
      else none
    else none

/-- Reads a date as a number of days since the epoch. -/
def readDate (cs : List Char) : Option (Int × List Char) := do
  let (year, cs) ← readDigits 4 cs
  let cs ← readOneOf ['-'] cs
  let (month, cs) ← readDigits 2 cs
  let cs ← readOneOf ['-'] cs
  let (day, cs) ← readDigits 2 cs
  if 1 ≤ day ∧ day ≤ daysInMonth year month then some (dayNumber year month day, cs) else none

/-- Reads a time of day as a number of seconds since midnight and nanoseconds. -/
def readClock (cs : List Char) : Option (Nat × Nat × List Char) := do
  let (hour, cs) ← readDigits 2 cs
  let cs ← readOneOf [':'] cs
  let (minute, cs) ← readDigits 2 cs
  let cs ← readOneOf [':'] cs
  let (second, cs) ← readDigits 2 cs
  let (nanos, cs) ← readFraction cs
  if 23 < hour ∨ 59 < minute ∨ 60 < second then none
  else if second = 60 then some (3600 * hour + 60 * minute + 59, 1000000000 + nanos, cs)
  else some (3600 * hour + 60 * minute + second, nanos, cs)

/-- Reads a time in the internet format. -/
def ofInternetFormat? (text : String) : Option Time := do
  let (day, cs) ← readDate text.toList
  let cs ← readOneOf ['T', 't', ' '] cs
  let (second, nanos, cs) ← readClock cs
  let (offset, cs) ← readOffset cs
  if cs.isEmpty then some ⟨86400 * day + second - offset, nanos⟩ else none

end ChainRecord.Time
