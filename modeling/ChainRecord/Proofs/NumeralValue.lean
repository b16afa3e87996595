import ChainRecord.Proofs.NumeralGrammar
import Mathlib.Data.List.Induction
import Mathlib.Data.Nat.Digits.Defs

/-!
# The values of numerals

An integer is read as the number it is written for in base ten, with its sign
(`integerOfChars?_eq_some_iff`). What a text is written for is said without reading it, digit by
digit from the last one on (`IsWritten`), and an integer is written for one number
(`existsUnique_isWritten_iff`).
-/

namespace ChainRecord.Numeral

/-- The number that a run of digits is written for, in base ten. -/
def numberOf (digits : List Char) : Nat :=
  Nat.ofDigits 10 (digits.reverse.map fun c ↦ c.toNat - '0'.toNat)

/-- An optional sign and digits are written for a number. -/
inductive IsWritten : List Char → Int → Prop
  /-- Digits without a sign. -/
  | plain {digits : List Char} : IsDigits digits → IsWritten digits (numberOf digits)
  /-- A plus has no meaning. -/
  | plus {digits : List Char} : IsDigits digits → IsWritten ('+' :: digits) (numberOf digits)
  /-- The digits behind a minus are written for the opposite number. -/
  | minus {digits : List Char} : IsDigits digits → IsWritten ('-' :: digits) (-numberOf digits)

theorem digitsValue_eq_numberOf (digits : List Char) : digitsValue digits = numberOf digits := by
  induction digits using List.reverseRecOn with
  | nil => rfl
  | append_singleton digits c ih =>
    have hlast : numberOf (digits ++ [c]) = (c.toNat - '0'.toNat) + 10 * numberOf digits := by
      rw [numberOf, List.reverse_concat, List.map_cons, Nat.ofDigits_cons]
      rfl
    rw [hlast, ← ih, Nat.add_comm, digitsValue, List.foldl_append]
    rfl

/-- A text is read as the number it is written for. -/
theorem integerOfChars?_eq_some_iff {cs : List Char} {n : Int} :
    integerOfChars? cs = some n ↔ IsWritten cs n := by
  have hread : integerOfChars? cs = some n ↔
      IsDigits (splitSign cs).2 ∧ signed (splitSign cs).1 (numberOf (splitSign cs).2) = n := by
    rw [integerOfChars?, ← isDigits_eq_true_iff]
    simp only [digitsValue_eq_numberOf, Option.ite_none_right_eq_some, Option.some.injEq]
  rw [hread]
  constructor
  · rintro ⟨hdigits, rfl⟩
    unfold splitSign at hdigits ⊢
    split at hdigits
    · exact .minus hdigits
    · exact .plus hdigits
    · exact .plain hdigits
  · intro h
    cases h with
    | plain hdigits =>
      rw [splitSign_of_isDigits hdigits]
      exact ⟨hdigits, rfl⟩
    | plus hdigits => exact ⟨hdigits, rfl⟩
    | minus hdigits => exact ⟨hdigits, rfl⟩

/-- The integers are the texts that are written for a number, and each of them is for one. -/
theorem existsUnique_isWritten_iff {cs : List Char} : (∃! n, IsWritten cs n) ↔ IsInteger cs := by
  simp only [← integerOfChars?_eq_some_iff]
  rw [← integerOfChars?_isSome_iff]
  cases integerOfChars? cs with
  | none => simp
  | some n => simp

end ChainRecord.Numeral
