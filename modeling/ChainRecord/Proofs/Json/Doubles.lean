import ChainRecord.Json.Printer
import ChainRecord.Json.Reader
import Mathlib.Algebra.Order.Field.Power
import Mathlib.Data.Nat.Digits.Defs
import Mathlib.Data.Rat.Cast.Order
import Mathlib.Tactic.NormNum
import Mathlib.Tactic.Ring

/-!
# Ranges of doubles

Whatever is rounded to a double has at most 53 significant bits and is not beyond the greatest
double (`inRange_of_ofRatio?`), so the double of every number text is in range
(`inRange_of_ofParts?`). It follows that the decimal exponent of a double is bounded
(`point_shortest_le`), and that a double that is written without a point and a minus is written in
a handful of characters (`length_magnitudeText_le`): one digit, the mark, a plus and an exponent.

The bounds on what is written are far from sharp. What matters is that they are there.
-/

namespace ChainRecord.Binary64

/-- At most 53 significant bits, and not beyond the greatest double. -/
structure InRange (x : Binary64) : Prop where
  mantissa_lt : x.mantissa < 2 ^ 53
  exponent_le : x.exponent ≤ maxExponent

theorem inRange_zero : zero.InRange :=
  ⟨by decide, by decide⟩

/-! ### Rounding -/

/-- A quotient below a bound is not rounded beyond it. There is nothing to say without a divisor. -/
theorem roundQuotient_le {num den bound : ℕ} (hbound : 0 < bound)
    (h : num < bound * den ∨ den = 0) : roundQuotient num den ≤ bound := by
  have hdiv : num / den < bound := by
    rcases h with h | rfl
    · exact Nat.div_lt_of_lt_mul (by rwa [Nat.mul_comm] at h)
    · rwa [Nat.div_zero]
  rw [roundQuotient]
  split_ifs <;> omega

/-- A scaled ratio is below a bound where the ratio is below the bound with the scale. -/
theorem scaleRatio_lt_iff {num den bound : ℕ} (exponent : ℤ) :
    (scaleRatio num den exponent).1 < bound * (scaleRatio num den exponent).2 ↔
      (num : ℚ) < bound * den * 2 ^ exponent := by
  rw [scaleRatio]
  split
  · rename_i hexponent
    obtain ⟨n, rfl⟩ := Int.eq_ofNat_of_zero_le hexponent
    rw [← Nat.cast_lt (α := ℚ)]
    simp [mul_assoc]
  · rename_i hexponent
    obtain ⟨n, rfl⟩ : ∃ n : ℕ, exponent = -n := ⟨(-exponent).toNat, by omega⟩
    rw [← Nat.cast_lt (α := ℚ), zpow_neg, ← div_eq_mul_inv, lt_div_iff₀ (by positivity)]
    simp

/-- The first guess of the exponent is not too small. -/
theorem lt_scale_guess {num den : ℕ} (hden : den ≠ 0) :
    (num : ℚ) < 2 ^ 53 * den * 2 ^ ((num.log2 : ℤ) - den.log2 - 52) := by
  have hhigh : (num : ℚ) < 2 ^ ((num.log2 : ℤ) + 1) := by
    exact_mod_cast Nat.lt_log2_self (n := num)
  have hlow : (2 : ℚ) ^ (den.log2 : ℤ) ≤ den := by
    exact_mod_cast Nat.log2_self_le hden
  calc (num : ℚ) < 2 ^ ((num.log2 : ℤ) + 1) := hhigh
    _ = 2 ^ 53 * 2 ^ (den.log2 : ℤ) * 2 ^ ((num.log2 : ℤ) - den.log2 - 52) := by
      rw [← zpow_natCast, ← zpow_add₀ two_ne_zero, ← zpow_add₀ two_ne_zero]
      congr 1
      omega
    _ ≤ 2 ^ 53 * den * 2 ^ ((num.log2 : ℤ) - den.log2 - 52) := by gcongr

/-- The exponent is one less than a guess where that leaves too few bits. -/
theorem lt_scale_of_lt {num den : ℕ} {guess : ℤ} (h : (num : ℚ) < 2 ^ 52 * den * 2 ^ guess) :
    (num : ℚ) < 2 ^ 53 * den * 2 ^ (guess - 1) := by
  refine h.trans_eq ?_
  rw [zpow_sub_one₀ two_ne_zero]
  ring

/-- Rounding at an exponent that is not too small leaves 53 bits, or the next power of two. -/
theorem roundQuotient_scaleRatio_le {num den : ℕ} {exponent : ℤ}
    (h : den ≠ 0 → (num : ℚ) < 2 ^ 53 * den * 2 ^ exponent) :
    roundQuotient (scaleRatio num den exponent).1 (scaleRatio num den exponent).2 ≤ 2 ^ 53 := by
  refine roundQuotient_le (by norm_num) ?_
  by_cases hden : den = 0
  · refine Or.inr ?_
    rw [scaleRatio, hden]
    split <;> simp
  · exact Or.inl ((scaleRatio_lt_iff exponent).2 (by exact_mod_cast h hden))

/-- Rounding gives a double in range, if it gives any. -/
theorem inRange_of_ofRatio? {num den : ℕ} {x : Binary64} (h : ofRatio? num den = some x) :
    x.InRange := by
  rw [ofRatio?] at h
  split at h
  · exact Option.some.inj h ▸ inRange_zero
  · set guess : ℤ := num.log2 - den.log2 - 52 with hguess
    dsimp only at h
    set exponent : ℤ :=
      if (scaleRatio num den guess).1 < leastMantissa * (scaleRatio num den guess).2 then guess - 1
      else guess with hexponent
    -- neither the correction of the guess nor the least exponent leaves too many bits
    have hscale (hden : den ≠ 0) : (num : ℚ) < 2 ^ 53 * den * 2 ^ exponent := by
      rw [hexponent]
      split
      · rename_i hlt
        exact lt_scale_of_lt (by exact_mod_cast (scaleRatio_lt_iff guess).1 hlt)
      · exact lt_scale_guess hden
    set clamped : ℤ := if exponent < minExponent then minExponent else exponent with hclamped
    have hclamp (hden : den ≠ 0) : (num : ℚ) < 2 ^ 53 * den * 2 ^ clamped := by
      refine (hscale hden).trans_le ?_
      have hle : exponent ≤ clamped := by
        rw [hclamped]
        split <;> omega
      gcongr
      norm_num
    have hround := roundQuotient_scaleRatio_le hclamp
    split_ifs at h with hpower hmax hmax
    · exact Option.some.inj h ▸ ⟨show leastMantissa < 2 ^ 53 by decide, not_lt.1 hmax⟩
    · exact Option.some.inj h ▸ ⟨lt_of_le_of_ne hround hpower, not_lt.1 hmax⟩

theorem inRange_getD {x? : Option Binary64} (h : ∀ x, x? = some x → x.InRange) :
    (x?.getD zero).InRange := by
  cases x? with
  | none => exact inRange_zero
  | some x => exact h x rfl

theorem inRange_dividedBy (x y : Binary64) : (x.dividedBy y).InRange :=
  inRange_getD fun _ ↦ inRange_of_ofRatio?

/-- The double of the parts of a number is in range. -/
theorem inRange_of_ofParts? {significand : ℕ} {exponent : ℤ} {x : Binary64}
    (h : ofParts? significand exponent = some x) : x.InRange := by
  rw [ofParts?, Option.bind_eq_bind, Option.bind_eq_some_iff] at h
  obtain ⟨y, -, h⟩ := h
  split_ifs at h
  · exact Option.some.inj h ▸ inRange_zero
  · exact inRange_of_ofRatio? h
  · exact Option.some.inj h ▸ inRange_dividedBy _ _
  · exact Option.some.inj h ▸ inRange_dividedBy _ _

/-! ### Numbers of digits -/

/-- A number has at most so many decimal digits. -/
def HasDigits (count n : ℕ) : Prop :=
  n < 10 ^ count

namespace HasDigits

variable {count count' n n' : ℕ}

theorem mono (h : HasDigits count n) (hcount : count ≤ count') : HasDigits count' n :=
  Nat.lt_of_lt_of_le h (Nat.pow_le_pow_right (by decide) hcount)

theorem mul (h : HasDigits count n) (h' : HasDigits count' n') :
    HasDigits (count + count') (n * n') := by
  rw [HasDigits, Nat.pow_add]
  exact Nat.mul_lt_mul'' h h'

theorem ten_pow (h : n < count) : HasDigits count (10 ^ n) :=
  Nat.pow_lt_pow_right (by decide) h

/-- A power of two has no more digits than the power of ten. -/
theorem two_pow (h : n < count) : HasDigits count (2 ^ n) :=
  Nat.lt_of_le_of_lt (Nat.pow_le_pow_left (by decide) n) (ten_pow h)

theorem zero (count : ℕ) : HasDigits count 0 :=
  Nat.pow_pos (by decide)

theorem four_mul_add_one (h : HasDigits count n) : HasDigits (count + 1) (4 * n + 1) := by
  rw [HasDigits] at h
  rw [HasDigits, Nat.pow_succ]
  omega

theorem length_toDigits_le (h : HasDigits count n) (hcount : 0 < count) :
    (Nat.toDigits 10 n).length ≤ count :=
  Nat.toDigits_length 10 n count hcount h

end HasDigits

/-! ### Decimal exponents -/

namespace InRange

variable {x : Binary64}

theorem toNat_exponent_le (h : x.InRange) : x.exponent.toNat ≤ 971 :=
  Int.toNat_le.2 h.exponent_le

theorem hasDigits_mantissa (h : x.InRange) : HasDigits 53 x.mantissa :=
  Nat.lt_of_lt_of_le h.mantissa_lt (Nat.pow_le_pow_left (by decide) 53)

theorem hasDigits_ratio (h : x.InRange) : HasDigits (53 + 972) x.ratio.1 := by
  rw [ratio]
  split
  · exact h.hasDigits_mantissa.mul (.two_pow (Nat.lt_succ_of_le h.toNat_exponent_le))
  · exact h.hasDigits_mantissa.mono (Nat.le_add_right 53 972)

theorem decimalPoint_le (h : x.InRange) : decimalPoint x.ratio.1 x.ratio.2 ≤ 1025 := by
  have hdigits : HasDigits (53 + 972) (x.ratio.1 / x.ratio.2) :=
    Nat.lt_of_le_of_lt (Nat.div_le_self _ _) h.hasDigits_ratio
  have hlength := hdigits.length_toDigits_le (by decide)
  rw [decimalPoint]
  split
  · exact_mod_cast hlength
  · dsimp only
    omega

end InRange

theorem le_decimalPoint (num den : ℕ) : -399 ≤ decimalPoint num den := by
  rw [decimalPoint]
  split
  · omega
  · have hplaces : ((List.range 400).find? fun j ↦ den ≤ num * Nat.pow 10 j).getD 400 ≤ 400 := by
      cases hfind : (List.range 400).find? fun j ↦ den ≤ num * Nat.pow 10 j with
      | none => exact Nat.le_refl 400
      | some j => exact (List.mem_range.1 (List.mem_of_find?_eq_some hfind)).le
    dsimp only
    omega

/-- The number that is found is one of the two next to the double. -/
theorem le_of_onGrid? {x : Binary64} {point : ℤ} {count n : ℕ}
    (h : x.onGrid? point count = some n) :
    n ≤ 4 * (x.mantissa *
      (2 ^ (x.exponent - 2).toNat * 10 ^ (-(point - count)).toNat)) + 1 := by
  rw [onGrid?] at h
  dsimp only at h
  rw [← Nat.mul_assoc]
  have hdiv := Nat.div_le_self (4 * x.mantissa *
    (2 ^ (x.exponent - 2).toNat * 10 ^ (-(point - count)).toNat))
    (10 ^ (point - count).toNat * 2 ^ (-(x.exponent - 2)).toNat)
  simp only [Nat.pow_eq] at h
  generalize (4 * x.mantissa *
    (2 ^ (x.exponent - 2).toNat * 10 ^ (-(point - count)).toNat)) /
    (10 ^ (point - count).toNat * 2 ^ (-(x.exponent - 2)).toNat) = below at h hdiv
  have hone : n = below ∨ n = below + 1 := by
    split at h
    · split_ifs at h <;> cases h <;> simp
    · exact Or.inl (Option.some.inj h).symm
    · exact Or.inr (Option.some.inj h).symm
    · cases h
  omega

theorem InRange.hasDigits_of_onGrid? {x : Binary64} (h : x.InRange) {point : ℤ} {count n : ℕ}
    (hpoint : -399 ≤ point) (hcount : count ≤ 17) (hn : x.onGrid? point count = some n) :
    HasDigits (53 + (972 + 417) + 1) n := by
  have htwo : (x.exponent - 2).toNat < 972 := by
    have hexponent := h.toNat_exponent_le
    omega
  have hten : (-(point - count)).toNat < 417 := by omega
  exact Nat.lt_of_le_of_lt (le_of_onGrid? hn)
    (h.hasDigits_mantissa.mul ((HasDigits.two_pow htwo).mul (.ten_pow hten))).four_mul_add_one

/-- The decimal exponent of a double has at most four digits. -/
theorem InRange.point_shortest_le {x : Binary64} (h : x.InRange) : x.shortest.point ≤ 9999 := by
  have hpoint := h.decimalPoint_le
  have hpoint' := le_decimalPoint x.ratio.1 x.ratio.2
  rw [shortest]
  dsimp only
  set point := decimalPoint x.ratio.1 x.ratio.2
  set found := (List.range 17).findSome? fun k ↦ (x.onGrid? point (k + 1)).map fun n ↦ (k + 1, n)
    with hfound
  have hdigits : HasDigits (53 + (972 + 417) + 1) (found.getD (17, 0)).2 := by
    cases hsome : found with
    | none => exact .zero _
    | some pair =>
      obtain ⟨k, hk, hpair⟩ := List.exists_of_findSome?_eq_some (hfound ▸ hsome)
      obtain ⟨n, hn, rfl⟩ := Option.map_eq_some_iff.1 hpair
      exact h.hasDigits_of_onGrid? hpoint' (List.mem_range.1 hk) hn
  have hlength := hdigits.length_toDigits_le (by decide)
  omega

end ChainRecord.Binary64

namespace ChainRecord.Json

open Binary64

/-! ### Texts -/

theorem point_mem_positional (form : DigitForm) : '.' ∈ positional form := by
  rw [positional]
  split_ifs <;> simp

/-- Without a point and a minus, an exponent stands behind one digit. -/
theorem length_scientific_le {form : DigitForm} (h : form.point ≤ 9999)
    (hpoint : '.' ∉ scientific form) (hminus : '-' ∉ scientific form) :
    (scientific form).length ≤ 7 := by
  have hfraction : form.digits.drop 1 = [] := by
    cases hdigits : form.digits.drop 1 with
    | nil => rfl
    | cons digit digits => exact absurd (by simp [scientific, hdigits]) hpoint
  have hsign : ¬ form.point - 1 < 0 := fun hneg ↦ hminus (by simp [scientific, hneg])
  have hdigits : HasDigits 4 (form.point - 1).natAbs := by
    show (form.point - 1).natAbs < 10000
    omega
  have hlength := hdigits.length_toDigits_le (by decide)
  have hfront := List.length_take_le 1 form.digits
  simp only [scientific, hfraction, List.append_nil, List.length_append, List.length_cons]
  omega

/-- A double that is written without a point and a minus is written in few characters. -/
theorem length_magnitudeText_le {x : Binary64} (h : x.InRange) (hpoint : '.' ∉ magnitudeText x)
    (hminus : '-' ∉ magnitudeText x) : (magnitudeText x).length ≤ 7 := by
  rw [magnitudeText] at hpoint hminus ⊢
  dsimp only at hpoint hminus ⊢
  split_ifs at hpoint hminus ⊢
  · exact absurd (by simp) hpoint
  · exact absurd (point_mem_positional _) hpoint
  · exact length_scientific_le h.point_shortest_le hpoint hminus

end ChainRecord.Json
