import ChainRecord.Decimal

/-!
# Numerals

The two number grammars of chain data, read exactly.

* An *integer numeral* is an optional sign followed by one or more digits.
* A *decimal numeral* is an integer numeral, optionally followed by a point and one or more digits.

Only the ten ASCII digits count. Exponents, separators and blanks are refused, so the scale of a
number that was read never exceeds the length of its text.
-/

namespace ChainRecord.Numeral

/-- The value of a run of digits. -/
def digitsValue (cs : List Char) : Nat :=
  cs.foldl (fun n c ↦ 10 * n + (c.toNat - 48)) 0

/-- Whether a text is a non-empty run of digits. -/
def isDigits (cs : List Char) : Bool :=
  !cs.isEmpty && cs.all Char.isDigit

/-- The sign of a numeral (whether it is negative) and what follows it. -/
def splitSign : List Char → Bool × List Char
  | '-' :: cs => (true, cs)
  | '+' :: cs => (false, cs)
  | cs => (false, cs)

/-- A number with its sign. -/
def signed (negative : Bool) (n : Nat) : Int :=
  if negative then -(n : Int) else n

/-- The value of an integer numeral. -/
def integerOfChars? (cs : List Char) : Option Int :=
  let (negative, digits) := splitSign cs
  if isDigits digits then some (signed negative (digitsValue digits)) else none

/-- The value of an integer numeral. -/
def integer? (text : String) : Option Int :=
  integerOfChars? text.toList

/-- The text before the first point and, when there is one, the text behind it. -/
def splitPoint (cs : List Char) : List Char × Option (List Char) :=
  match cs.span (· ≠ '.') with
  | (whole, []) => (whole, none)
  | (whole, _ :: fraction) => (whole, some fraction)

/-- The value of a decimal numeral: all digits as one signed integer, scaled by the number of
digits behind the point. The sign is read off the text and not off the whole part, which may be a
negative zero. -/
def decimalOfChars? (cs : List Char) : Option Decimal :=
  match splitPoint cs with
  | (whole, none) => (integerOfChars? whole).map Decimal.ofInt
  | (whole, some fraction) =>
    if isDigits fraction then
      let (negative, digits) := splitSign whole
      if isDigits digits then
        some ⟨signed negative (digitsValue (digits ++ fraction)), fraction.length⟩
      else none
    else none

/-- The value of a decimal numeral. -/
def decimal? (text : String) : Option Decimal :=
  decimalOfChars? text.toList

/-- Places of the rates that modules store as scaled integers. -/
def ratePlaces : Nat := 18

/-- Reads a module integer, for which the empty text is zero. -/
def moduleInteger? (text : String) : Option Decimal :=
  if text.isEmpty then some Decimal.zero
  else (integer? text).map Decimal.ofInt

/-- Reads a rate. With a point it is a decimal numeral; without one it is an integer in units of
`10 ^ -18`. The empty text is zero. -/
def rate? (text : String) : Option Decimal :=
  if text.isEmpty then some Decimal.zero
  else if text.toList.contains '.' then decimal? text
  else (integer? text).map fun n ↦ ⟨n, ratePlaces⟩

end ChainRecord.Numeral
