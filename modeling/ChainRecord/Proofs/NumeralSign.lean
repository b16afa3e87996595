import ChainRecord.Proofs.DecimalValue
import ChainRecord.Proofs.NumeralGrammar

/-!
# Signs of numerals

When a numeral stands for a negative number, said of its text: there is a minus sign in front of it
and a digit other than zero behind that. A minus sign alone is not enough, since `-0.0` is zero.

The coefficient of a decimal is the value of all its digits, with the point left out
(`coefficient_of_decimalOfChars?`), so a point does not matter here.
-/

namespace ChainRecord.Numeral

/-- A minus sign, and somewhere behind it a digit other than zero. -/
def IsNegative (cs : List Char) : Prop :=
  ∃ rest, cs = '-' :: rest ∧ ∃ c ∈ rest, '1' ≤ c ∧ c ≤ '9'

/-! ### Values of digits -/

theorem foldl_digits_eq_zero_iff {cs : List Char} {n : Nat} :
    cs.foldl (fun n c ↦ 10 * n + (c.toNat - 48)) n = 0 ↔ n = 0 ∧ ∀ c ∈ cs, c.toNat ≤ 48 := by
  induction cs generalizing n with
  | nil => simp
  | cons c cs ih =>
    have hstep : 10 * n + (c.toNat - 48) = 0 ↔ n = 0 ∧ c.toNat ≤ 48 := by omega
    rw [List.foldl_cons, ih, hstep, List.forall_mem_cons, and_assoc]

/-- Of the ten digits only one stands for zero. -/
theorem isDigit_imp_le_iff {c : Char} :
    (c.isDigit = true → c.toNat ≤ 48) ↔ ¬ ('1' ≤ c ∧ c ≤ '9') := by
  simp only [Char.isDigit, Bool.and_eq_true, decide_eq_true_eq, Char.le_def, UInt32.le_iff_toNat_le,
    ge_iff_le, Char.toNat]
  show (48 ≤ c.val.toNat ∧ c.val.toNat ≤ 57 → _) ↔ ¬ (49 ≤ c.val.toNat ∧ c.val.toNat ≤ 57)
  omega

/-- The digits of a text stand for zero if none of them is another one. -/
theorem digitsValue_filter_eq_zero_iff {cs : List Char} :
    digitsValue (cs.filter Char.isDigit) = 0 ↔ ¬ ∃ c ∈ cs, '1' ≤ c ∧ c ≤ '9' := by
  rw [digitsValue, foldl_digits_eq_zero_iff]
  simp only [true_and, List.mem_filter, and_imp, isDigit_imp_le_iff, not_exists, not_and]

theorem filter_isDigit_of_isDigits {cs : List Char} (h : isDigits cs = true) :
    cs.filter Char.isDigit = cs := by
  rw [isDigits, Bool.and_eq_true, List.all_eq_true] at h
  exact List.filter_eq_self.2 h.2

theorem signed_nonneg_iff {negative : Bool} {n : Nat} :
    0 ≤ signed negative n ↔ ¬ (negative = true ∧ n ≠ 0) := by
  cases negative <;> simp [signed]

/-! ### Signs -/

theorem splitSign_append {cs : List Char} (h : cs ≠ []) (rest : List Char) :
    splitSign (cs ++ rest) = ((splitSign cs).1, (splitSign cs).2 ++ rest) := by
  obtain ⟨c, cs, rfl⟩ := List.exists_cons_of_ne_nil h
  rw [List.cons_append]
  by_cases hminus : c = '-'
  · subst hminus; rfl
  · by_cases hplus : c = '+'
    · subst hplus; rfl
    · simp [splitSign, hminus, hplus]

theorem isNegative_iff {cs : List Char} :
    IsNegative cs ↔ (splitSign cs).1 = true ∧ ∃ c ∈ (splitSign cs).2, '1' ≤ c ∧ c ≤ '9' := by
  constructor
  · rintro ⟨rest, rfl, h⟩
    exact ⟨rfl, h⟩
  · intro ⟨hsign, h⟩
    unfold splitSign at hsign h
    split at hsign
    · exact ⟨_, rfl, h⟩
    · exact nomatch hsign
    · exact nomatch hsign

/-- The coefficient of a decimal is all its digits, with its sign. -/
theorem coefficient_of_decimalOfChars? {cs : List Char} {x : Decimal}
    (h : decimalOfChars? cs = some x) :
    x.coefficient =
      signed (splitSign cs).1 (digitsValue ((splitSign cs).2.filter Char.isDigit)) := by
  by_cases hpoint : '.' ∈ cs
  · obtain ⟨whole, fraction, rfl, hwhole⟩ := List.eq_append_cons_of_mem hpoint
    rw [decimalOfChars?, splitPoint_append hwhole] at h
    dsimp only at h
    split at h
    · rename_i hfraction
      split at h
      · rename_i hdigits
        -- the sign is that of the whole part, which is not empty
        have hne : whole ≠ [] := by
          rintro rfl
          exact absurd hdigits (by decide)
        obtain rfl := Option.some.inj h
        rw [splitSign_append hne, List.filter_append, filter_isDigit_of_isDigits hdigits,
          List.filter_cons_of_neg (by decide), filter_isDigit_of_isDigits hfraction]
      · cases h
    · cases h
  · rw [decimalOfChars?, splitPoint_of_not_mem hpoint] at h
    obtain ⟨n, hn, rfl⟩ := Option.map_eq_some_iff.1 h
    rw [integerOfChars?] at hn
    dsimp only at hn
    split at hn
    · rename_i hdigits
      obtain rfl := Option.some.inj hn
      rw [filter_isDigit_of_isDigits hdigits, Decimal.ofInt]
    · cases hn

/-- A decimal is negative where its text is. -/
theorem value_nonneg_iff_of_decimalOfChars? {cs : List Char} {x : Decimal}
    (h : decimalOfChars? cs = some x) : 0 ≤ x.value ↔ ¬ IsNegative cs := by
  rw [Decimal.value_nonneg_iff, coefficient_of_decimalOfChars? h, signed_nonneg_iff, isNegative_iff,
    ne_eq, digitsValue_filter_eq_zero_iff, not_not]

end ChainRecord.Numeral
