import ChainRecord.Proofs.NumeralScale

/-!
# Forms of rates

A rate has eighteen places, and there are two ways to write one: as an integer of units of
`10 ^ -18`, and with a point in front of the places. A reader is not told which one it is given. It
looks for a point, so that every text has one form, and both forms of a number are read as the same
decimal, whatever its sign and its size (`rate_forms_agree`).

The places of the second form are as many digits as there are places, with zeros in front
(`paddedDigits`). Left of the point is at least one digit, which is a zero for a number below one,
and then the sign is all that makes it negative.
-/

namespace ChainRecord

namespace Numeral

/-! ### Digits of numbers -/

theorem isDigits_toDigits (n : Nat) : IsDigits (Nat.toDigits 10 n) := by
  rw [← isDigits_eq_true_iff, isDigits, Bool.and_eq_true, List.all_eq_true]
  refine ⟨by simp [Nat.toDigits_ne_nil], fun c hc ↦ ?_⟩
  exact Nat.isDigit_of_mem_toDigits (by decide) (by decide) hc

theorem numberOf_toDigits (n : Nat) : numberOf (Nat.toDigits 10 n) = n := by
  rw [← digitsValue_eq_numberOf]
  exact Nat.ofDigitChars_ten_toDigits

/-- The digits of a number, with zeros in front of them up to a width. -/
def paddedDigits (width n : Nat) : List Char :=
  (Nat.toDigits 10 n).leftpad width '0'

theorem length_paddedDigits {width n : Nat} (hwidth : 0 < width) (hn : n < 10 ^ width) :
    (paddedDigits width n).length = width := by
  rw [paddedDigits, List.length_leftpad]
  exact max_eq_left (Nat.toDigits_length 10 n width hwidth hn)

theorem isDigits_paddedDigits (width n : Nat) : IsDigits (paddedDigits width n) := by
  obtain ⟨hne, hall⟩ := isDigits_toDigits n
  refine ⟨by simp [paddedDigits, List.leftpad, hne], fun c hc ↦ ?_⟩
  rcases List.mem_append.1 hc with hzero | hdigit
  · rw [List.eq_of_mem_replicate hzero]
    decide
  · exact hall c hdigit

theorem numberOf_replicate_zero (count : Nat) : numberOf (List.replicate count '0') = 0 := by
  rw [← digitsValue_eq_numberOf, digitsValue, foldl_digits_eq_zero_iff]
  refine ⟨rfl, fun c hc ↦ ?_⟩
  rw [List.eq_of_mem_replicate hc]
  decide

/-- Zeros in front do not count. -/
theorem numberOf_paddedDigits (width n : Nat) : numberOf (paddedDigits width n) = n := by
  rw [paddedDigits, List.leftpad, numberOf_append, numberOf_replicate_zero, numberOf_toDigits,
    Nat.mul_zero, Nat.zero_add]

/-! ### Two ways to write a number -/

/-- An integer, with a minus if it is negative. -/
def unitsText (n : Int) : List Char :=
  signText (n < 0) ++ Nat.toDigits 10 n.natAbs

/-- An integer of units of `10 ^ -places`, with a point in front of the places. -/
def pointText (places : Nat) (n : Int) : List Char :=
  signText (n < 0) ++ (Nat.toDigits 10 (n.natAbs / 10 ^ places) ++
    '.' :: paddedDigits places (n.natAbs % 10 ^ places))

theorem signed_natAbs (n : Int) : signed (n < 0) n.natAbs = n := by
  by_cases hneg : n < 0
  · rw [decide_eq_true hneg, signed, if_pos rfl]
    omega
  · rw [decide_eq_false hneg, signed, if_neg Bool.false_ne_true]
    omega

theorem isWritten_unitsText (n : Int) : IsWritten (unitsText n) n := by
  have hwritten := isWritten_signText (n < 0) (isDigits_toDigits n.natAbs)
  rwa [numberOf_toDigits, signed_natAbs] at hwritten

theorem isWrittenAt_pointText {places : Nat} (hplaces : 0 < places) (n : Int) :
    IsWrittenAt (pointText places n) n places := by
  have hlength : (paddedDigits places (n.natAbs % 10 ^ places)).length = places :=
    length_paddedDigits hplaces (Nat.mod_lt _ (by positivity))
  have hwritten := isWrittenAt_signText (n < 0) (isDigits_toDigits (n.natAbs / 10 ^ places))
    (isDigits_paddedDigits places (n.natAbs % 10 ^ places))
  -- the digits on both sides of the point are quotient and remainder by the unit
  rwa [numberOf_append, numberOf_toDigits, numberOf_paddedDigits, hlength, Nat.div_add_mod,
    signed_natAbs] at hwritten

end Numeral

namespace Reading

open Numeral

variable {text : String} {x : Decimal}

/-! ### What is read -/

/-- A text stands for a rate. -/
inductive StandsForRate : String → Decimal → Prop
  /-- The empty text stands for zero. -/
  | nothing : StandsForRate "" .zero
  /-- Without a point, units of `10 ^ -18` are counted. -/
  | units {text : String} {n : Int} : IsWritten text.toList n → StandsForRate text ⟨n, 18⟩
  /-- With a point, there may be any number of places. -/
  | places {text : String} {n : Int} {places : Nat} : '.' ∈ text.toList →
      IsWrittenAt text.toList n places → StandsForRate text ⟨n, places⟩

/-- Without a point, the integer of a text is taken in units. -/
theorem rate_of_not_mem (hempty : text ≠ "") (hpoint : '.' ∉ text.toList) :
    rate text = .ok x ↔ ∃ n, IsWritten text.toList n ∧ ⟨n, 18⟩ = x := by
  simp only [← integerOfChars?_eq_some_iff]
  rw [rate, rate?, if_neg (by simpa using hempty), if_neg (by simpa using hpoint), integer?,
    ratePlaces]
  cases integerOfChars? text.toList <;> simp

/-- With a point, a text is read as the decimal that it is. -/
theorem rate_of_mem (hpoint : '.' ∈ text.toList) :
    rate text = .ok x ↔ ∃ n places, IsWrittenAt text.toList n places ∧ x = ⟨n, places⟩ := by
  have hempty : text ≠ "" := by
    rintro rfl
    simp at hpoint
  rw [← decimalOfChars?_eq_some_iff, rate, rate?, if_neg (by simpa using hempty),
    if_pos (by simpa using hpoint), decimal?]
  cases decimalOfChars? text.toList <;> simp

theorem rate_eq_ok_iff : rate text = .ok x ↔ StandsForRate text x := by
  constructor
  · intro h
    by_cases hempty : text = ""
    · subst hempty
      obtain rfl : Decimal.zero = x := Except.ok.inj h
      exact .nothing
    · by_cases hpoint : '.' ∈ text.toList
      · obtain ⟨n, places, hwritten, rfl⟩ := (rate_of_mem hpoint).1 h
        exact .places hpoint hwritten
      · obtain ⟨n, hwritten, rfl⟩ := (rate_of_not_mem hempty hpoint).1 h
        exact .units hwritten
  · intro h
    cases h with
    | nothing => rfl
    | @units _ n hwritten =>
      have hempty : text ≠ "" := by
        rintro rfl
        exact hwritten.isInteger.ne_nil rfl
      exact (rate_of_not_mem hempty hwritten.isInteger.point_not_mem).2 ⟨n, hwritten, rfl⟩
    | @places _ n places hpoint hwritten => exact (rate_of_mem hpoint).2 ⟨n, places, hwritten, rfl⟩

/-- The error of a rate is the text itself. -/
theorem rate_eq_error_iff {e : Inconsistency} :
    rate text = .error e ↔ e = .invalidDecimal text ∧ IsMalformedRate text := by
  rw [← fails_rate_iff, rate]
  cases rate? text <;> simp [eq_comm]

/-- **Both forms of a rate are the same number.** Every integer of units of `10 ^ -18` is read from
its own digits and from those with a point as the same decimal, which is the integer over `10 ^ 18`.
The texts that are refused are those that are not empty and have neither form, and the error names
the text. -/
theorem rate_forms_agree :
    (∀ n : Int, rate (String.ofList (unitsText n)) = .ok ⟨n, 18⟩ ∧
      rate (String.ofList (pointText 18 n)) = .ok ⟨n, 18⟩ ∧
      (⟨n, 18⟩ : Decimal).value = n / 10 ^ 18) ∧
    ∀ text e, rate text = .error e ↔
      e = .invalidDecimal text ∧ text ≠ "" ∧ ¬ IsDecimal text.toList := by
  refine ⟨fun n ↦ ⟨?_, ?_, Decimal.value_natCast_scale n 18⟩, fun text e ↦ rate_eq_error_iff⟩
  · refine rate_eq_ok_iff.2 (.units ?_)
    rw [String.toList_ofList]
    exact isWritten_unitsText n
  · have hwritten : IsWrittenAt (String.ofList (pointText 18 n)).toList n 18 := by
      rw [String.toList_ofList]
      exact isWrittenAt_pointText (by decide) n
    have hpoint : '.' ∈ (String.ofList (pointText 18 n)).toList := by
      rw [String.toList_ofList, pointText]
      simp
    exact rate_eq_ok_iff.2 (.places hpoint hwritten)

/-- Five percent below zero, in both forms. -/
example : rate "-50000000000000000" = .ok ⟨-50000000000000000, 18⟩ ∧
    rate "-0.050000000000000000" = .ok ⟨-50000000000000000, 18⟩ := by
  decide

end Reading

end ChainRecord
