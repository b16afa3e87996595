import ChainRecord.Proofs.NumeralSign
import ChainRecord.Proofs.NumeralValue

/-!
# Numerals are read exactly

A decimal has the digits of an integer with a point among them, and its sign is the sign of that
integer. So what a decimal is written for is said with one integer and the number of places behind
the point (`IsWrittenAt`), and there is no separate rule for a whole part that is a negative zero.

Both readers take the texts of their grammars and no others, and lose nothing of them
(`numeral_exact`). The integers are the decimals without a point, so one reader extends the other.
As there are no exponents, a text is at least as long as the number of places that it is written
with.
-/

namespace ChainRecord

namespace Decimal

/-- A number of places divides by a power of ten. -/
theorem value_natCast_scale (n : Int) (places : Nat) : value ⟨n, places⟩ = n / 10 ^ places := by
  rw [value, zpow_neg, zpow_natCast, div_eq_mul_inv]

/-- At one scale a number has one coefficient. -/
theorem eq_mk_iff {x : Decimal} {n : Int} {places : Nat} :
    x = ⟨n, places⟩ ↔ x.scale = places ∧ x.value = n / 10 ^ places := by
  obtain ⟨coefficient, scale⟩ := x
  constructor
  · intro h
    rw [h]
    exact ⟨rfl, value_natCast_scale n places⟩
  · rintro ⟨rfl, hvalue⟩
    have hten : (10 : ℚ) ^ places ≠ 0 := pow_ne_zero _ (by norm_num)
    rw [value_natCast_scale, div_left_inj' hten, Int.cast_inj] at hvalue
    rw [hvalue]

end Decimal

namespace Numeral

/-- A text is written for an integer at a number of places behind the point. -/
inductive IsWrittenAt : List Char → Int → Nat → Prop
  /-- An integer has no places. -/
  | whole {cs : List Char} {n : Int} : IsWritten cs n → IsWrittenAt cs n 0
  /-- With the point left out, the digits are those of an integer. -/
  | point {whole fraction : List Char} {n : Int} : IsInteger whole → IsDigits fraction →
      IsWritten (whole ++ fraction) n → IsWrittenAt (whole ++ '.' :: fraction) n fraction.length

/-! ### Integers -/

theorem IsDigits.append {front back : List Char} (h : IsDigits front) (h' : IsDigits back) :
    IsDigits (front ++ back) :=
  ⟨by simp [h.1], fun c hc ↦ (List.mem_append.1 hc).elim (h.2 c) (h'.2 c)⟩

theorem numberOf_append (front back : List Char) :
    numberOf (front ++ back) = 10 ^ back.length * numberOf front + numberOf back := by
  rw [numberOf, List.reverse_append, List.map_append, Nat.ofDigits_append, List.length_map,
    List.length_reverse, Nat.add_comm]
  rfl

/-- A minus, or nothing. -/
def signText (negative : Bool) : List Char :=
  if negative then ['-'] else []

theorem isWritten_signText (negative : Bool) {digits : List Char} (h : IsDigits digits) :
    IsWritten (signText negative ++ digits) (signed negative (numberOf digits)) := by
  cases negative with
  | true => exact .minus h
  | false => exact .plain h

theorem IsInteger.ne_nil {cs : List Char} (h : IsInteger cs) : cs ≠ [] := by
  obtain ⟨sign, digits, rfl, -, hdigits⟩ := h
  simp [hdigits.1]

theorem IsWritten.isInteger {cs : List Char} {n : Int} (h : IsWritten cs n) : IsInteger cs := by
  rw [← integerOfChars?_isSome_iff, integerOfChars?_eq_some_iff.2 h]
  rfl

/-- Digits behind an integer are further digits of it. -/
theorem isWritten_append_iff {whole fraction : List Char} {n : Int} (hwhole : IsInteger whole)
    (hfraction : IsDigits fraction) :
    IsWritten (whole ++ fraction) n ↔
      signed (splitSign whole).1 (digitsValue ((splitSign whole).2 ++ fraction)) = n := by
  have hdigits := (isDigits_splitSign_iff.2 hwhole).append hfraction
  rw [← integerOfChars?_eq_some_iff, integerOfChars?, splitSign_append hwhole.ne_nil]
  dsimp only
  rw [if_pos (isDigits_eq_true_iff.2 hdigits), Option.some_inj]

/-! ### Decimals -/

/-- With a point, the whole part is an integer, and all digits are read as one integer. -/
theorem decimalOfChars?_append_eq_some_iff {whole fraction : List Char} {x : Decimal}
    (hpoint : '.' ∉ whole) :
    decimalOfChars? (whole ++ '.' :: fraction) = some x ↔
      IsInteger whole ∧ IsDigits fraction ∧
        ∃ n, IsWritten (whole ++ fraction) n ∧ x = ⟨n, fraction.length⟩ := by
  rw [decimalOfChars?, splitPoint_append hpoint, ← isDigits_splitSign_iff, ← isDigits_eq_true_iff,
    ← isDigits_eq_true_iff]
  simp only [Option.ite_none_right_eq_some, Option.some.injEq]
  constructor
  · rintro ⟨hfraction, hwhole, rfl⟩
    refine ⟨hwhole, hfraction, _, ?_, rfl⟩
    exact (isWritten_append_iff (isDigits_splitSign_iff.1 (isDigits_eq_true_iff.1 hwhole))
      (isDigits_eq_true_iff.1 hfraction)).2 rfl
  · rintro ⟨hwhole, hfraction, n, hn, rfl⟩
    refine ⟨hfraction, hwhole, ?_⟩
    rw [isWritten_append_iff (isDigits_splitSign_iff.1 (isDigits_eq_true_iff.1 hwhole))
      (isDigits_eq_true_iff.1 hfraction)] at hn
    rw [hn]

/-- A text is read as what it is written for. -/
theorem decimalOfChars?_eq_some_iff {cs : List Char} {x : Decimal} :
    decimalOfChars? cs = some x ↔ ∃ n places, IsWrittenAt cs n places ∧ x = ⟨n, places⟩ := by
  by_cases hpoint : '.' ∈ cs
  · obtain ⟨whole, fraction, rfl, hwhole⟩ := List.eq_append_cons_of_mem hpoint
    rw [decimalOfChars?_append_eq_some_iff hwhole]
    constructor
    · rintro ⟨hinteger, hdigits, n, hn, rfl⟩
      exact ⟨n, _, .point hinteger hdigits hn, rfl⟩
    · rintro ⟨n, places, hwritten, rfl⟩
      generalize heq : whole ++ '.' :: fraction = cs at hwritten
      cases hwritten with
      | whole hn => exact absurd (heq ▸ hpoint) hn.isInteger.point_not_mem
      | point hinteger hdigits hn =>
        -- a text has one first point
        have hsplit := splitPoint_append hwhole fraction
        rw [heq, splitPoint_append hinteger.point_not_mem] at hsplit
        obtain ⟨rfl, hfraction⟩ := Prod.mk.inj hsplit
        obtain rfl := Option.some.inj hfraction
        exact ⟨hinteger, hdigits, n, hn, rfl⟩
  · rw [decimalOfChars?, splitPoint_of_not_mem hpoint]
    simp only [Option.map_eq_some_iff, integerOfChars?_eq_some_iff]
    constructor
    · rintro ⟨n, hn, rfl⟩
      exact ⟨n, 0, .whole hn, rfl⟩
    · rintro ⟨n, places, hwritten, rfl⟩
      cases hwritten with
      | whole hn => exact ⟨n, hn, rfl⟩
      | point _ _ _ => exact absurd (by simp) hpoint

/-- An integer is a decimal without places. -/
theorem decimalOfChars?_of_isWritten {cs : List Char} {n : Int} (h : IsWritten cs n) :
    decimalOfChars? cs = some (.ofInt n) :=
  decimalOfChars?_eq_some_iff.2 ⟨n, 0, .whole h, rfl⟩

/-- Digits with a point among them are written for the number of all digits, behind a sign. -/
theorem isWrittenAt_signText (negative : Bool) {whole fraction : List Char}
    (hwhole : IsDigits whole) (hfraction : IsDigits fraction) :
    IsWrittenAt (signText negative ++ (whole ++ '.' :: fraction))
      (signed negative (numberOf (whole ++ fraction))) fraction.length := by
  have hall := isWritten_signText negative (hwhole.append hfraction)
  rw [← List.append_assoc] at hall ⊢
  exact .point (isWritten_signText negative hwhole).isInteger hfraction hall

/-- Every place is a digit of the text. -/
theorem IsWrittenAt.places_le_length {cs : List Char} {n : Int} {places : Nat}
    (h : IsWrittenAt cs n places) : places ≤ cs.length := by
  cases h with
  | whole _ => exact Nat.zero_le _
  | point _ _ _ =>
    rw [List.length_append, List.length_cons]
    omega

/-- **Numerals are read exactly.** The integers are read, and nothing else is read as an integer,
each as the number that it is written for. The decimals are read, and nothing else, each as the
integer of all its digits over a power of ten, with one factor for every digit behind the point. A
text that is read as an integer is read as the same decimal, and no scale exceeds the length of the
text. -/
theorem numeral_exact (text : String) :
    ((∃ n, integer? text = some n) ↔ IsInteger text.toList) ∧
    (∀ n, integer? text = some n ↔ IsWritten text.toList n) ∧
    ((∃ x, decimal? text = some x) ↔ IsDecimal text.toList) ∧
    (∀ x, decimal? text = some x ↔ ∃ n places, IsWrittenAt text.toList n places ∧
      x.scale = places ∧ x.value = n / 10 ^ places) ∧
    (∀ n, integer? text = some n → decimal? text = some (.ofInt n)) ∧
    ∀ x, decimal? text = some x → 0 ≤ x.scale ∧ x.scale ≤ text.length := by
  refine ⟨?_, fun n ↦ integerOfChars?_eq_some_iff, ?_, fun x ↦ ?_, fun n hn ↦ ?_, fun x hx ↦ ?_⟩
  · rw [← integerOfChars?_isSome_iff, Option.isSome_iff_exists]
    rfl
  · rw [← decimalOfChars?_isSome_iff, Option.isSome_iff_exists]
    rfl
  · rw [decimal?, decimalOfChars?_eq_some_iff]
    simp only [Decimal.eq_mk_iff]
  · exact decimalOfChars?_of_isWritten (integerOfChars?_eq_some_iff.1 hn)
  · obtain ⟨n, places, hwritten, rfl⟩ := decimalOfChars?_eq_some_iff.1 hx
    have hle := hwritten.places_le_length
    rw [String.length_toList] at hle
    exact ⟨Int.natCast_nonneg _, Int.ofNat_le.2 hle⟩

/-- A whole part that is a negative zero does not lose the sign of the number. -/
theorem numeral_exact_negativeFraction :
    (decimal? "-0.05" = some ⟨-5, 2⟩ ∧ (⟨-5, 2⟩ : Decimal).scale ≤ "-0.05".length) ∧
      integer? "+7" = some 7 ∧ decimal? "+7" = some (.ofInt 7) := by
  have hfraction : decimal? "-0.05" = some ⟨-5, 2⟩ := by decide
  have hseven : integer? "+7" = some 7 := by decide
  exact ⟨⟨hfraction, ((numeral_exact "-0.05").2.2.2.2.2 _ hfraction).2⟩, hseven,
    (numeral_exact "+7").2.2.2.2.1 7 hseven⟩

end Numeral

end ChainRecord
