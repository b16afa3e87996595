import ChainRecord.Decimal.Numeral

/-!
# Integers of bounded range

Reads integer numerals into a range that contains zero, and names the first problem met from the
left: a character is looked at before the number it extends is compared with the range.
-/

namespace ChainRecord

/-- What is wrong with an integer numeral. -/
inductive IntegerFault where
  /-- The text is empty. -/
  | empty
  /-- A character is no digit, or a sign stands alone or where the range has no such sign. -/
  | invalidDigit
  /-- The number is above the range. -/
  | tooLarge
  /-- The number is below the range. -/
  | tooSmall
  deriving DecidableEq, Repr

/-- The text of a fault. -/
def IntegerFault.message : IntegerFault → String
  | .empty => "cannot parse integer from empty string"
  | .invalidDigit => "invalid digit found in string"
  | .tooLarge => "number too large to fit in target type"
  | .tooSmall => "number too small to fit in target type"

/-- The integers from `low` to `high`. -/
structure IntegerRange where
  /-- The least member. -/
  low : Int
  /-- The greatest member. -/
  high : Int

namespace IntegerRange

/-- Signed integers of sixty-four bits. -/
def int64 : IntegerRange := ⟨-9223372036854775808, 9223372036854775807⟩

/-- Unsigned integers of sixty-four bits. -/
def uint64 : IntegerRange := ⟨0, 18446744073709551615⟩

/-- Extends a number digit by digit, away from zero. -/
def readDigits (range : IntegerRange) (negative : Bool) : Int → List Char → Except IntegerFault Int
  | n, [] => .ok n
  | n, c :: cs =>
    if c.isDigit then
      let m := 10 * n + Numeral.signed negative (c.toNat - 48)
      if m < range.low then .error .tooSmall
      else if range.high < m then .error .tooLarge
      else range.readDigits negative m cs
    else .error .invalidDigit

/-- Reads an integer numeral. A minus sign is a sign only where the range has negative members. -/
def read (range : IntegerRange) (text : String) : Except IntegerFault Int :=
  match text.toList with
  | [] => .error .empty
  | ['+'] | ['-'] => .error .invalidDigit
  | '+' :: digits => range.readDigits false 0 digits
  | '-' :: digits =>
    if range.low < 0 then range.readDigits true 0 digits else .error .invalidDigit
  | digits => range.readDigits false 0 digits

end IntegerRange

end ChainRecord
