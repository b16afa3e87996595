/-!
# Exact decimals

A decimal is an integer coefficient together with a scale, and stands for
`coefficient / 10 ^ scale`. Nothing is ever rounded: amounts on a chain are unbounded integers and
rates have eighteen places, so both are kept with all their digits.

The scale may be negative. That happens only when an amount in display units is brought to native
units, where shifting the scale avoids multiplying out a power of ten that the amount may not need
(zero display units are zero whatever the exponent).

The written form depends on the value alone: no exponent, no trailing zeros after the point, no
trailing point, and `0` for every zero.
-/

namespace ChainRecord

/-- The number `coefficient / 10 ^ scale`. -/
structure Decimal where
  /-- All digits of the number, as an integer. -/
  coefficient : Int
  /-- How many of the digits stand after the point. -/
  scale : Int
  deriving DecidableEq, Repr

namespace Decimal

/-- A whole number. -/
def ofInt (n : Int) : Decimal := ⟨n, 0⟩

/-- Zero. -/
def zero : Decimal := ofInt 0

/-- The power of ten with an exponent. -/
def tenTo (exponent : Nat) : Nat := Nat.pow 10 exponent

/-- The sum, at the larger of the two scales. -/
def add (x y : Decimal) : Decimal :=
  if x.scale ≤ y.scale then
    ⟨x.coefficient * tenTo (y.scale - x.scale).toNat + y.coefficient, y.scale⟩
  else
    ⟨x.coefficient + y.coefficient * tenTo (x.scale - y.scale).toNat, x.scale⟩

instance : Add Decimal := ⟨add⟩

/-- Multiplies by a power of ten, by shifting the point. -/
def timesPowerOfTen (x : Decimal) (exponent : Nat) : Decimal :=
  ⟨x.coefficient, x.scale - exponent⟩

/-- The sum of a list. -/
def sum (xs : List Decimal) : Decimal :=
  xs.foldl add zero

/-- Digits before and after the point of `n / 10 ^ scale`, at least one before it. -/
def splitDigits (n scale : Nat) : List Char × List Char :=
  let digits := Nat.toDigits 10 n
  let padded := List.replicate (scale + 1 - digits.length) '0' ++ digits
  padded.splitAt (padded.length - scale)

/-- Removes zeros from the end. -/
def dropTrailingZeros (cs : List Char) : List Char :=
  (cs.reverse.dropWhile (· = '0')).reverse

/-- Characters of the written form of a number that is not negative. -/
def magnitudeChars (n : Nat) (scale : Int) : List Char :=
  if n = 0 then ['0']
  else if scale ≤ 0 then Nat.toDigits 10 n ++ List.replicate (-scale).toNat '0'
  else
    let (whole, fraction) := splitDigits n scale.toNat
    match dropTrailingZeros fraction with
    | [] => whole
    | places => whole ++ '.' :: places

/-- The written form. -/
def text (x : Decimal) : String :=
  let magnitude := magnitudeChars x.coefficient.natAbs x.scale
  String.ofList (if x.coefficient < 0 then '-' :: magnitude else magnitude)

end Decimal

end ChainRecord
