import ChainRecord.Proofs.Outcome
import ChainRecord.Reading.Inconsistency
import Mathlib.Data.List.TakeDrop
import Mathlib.Data.List.TakeWhile

/-!
# The grammar of numerals

Which texts are numerals, said without reading them: an integer is digits behind an optional sign,
and a decimal is an integer and optionally a point and digits. A text is read where it is one of
these and nowhere else (`integerOfChars?_isSome_iff`, `decimalOfChars?_isSome_iff`), so exactly the
other texts, without the empty one, make a message inconsistent (`fails_moduleInteger_iff`,
`fails_rate_iff`).
-/

namespace ChainRecord.Numeral

/-! ### The grammar -/

/-- A run of one or more digits. -/
def IsDigits (cs : List Char) : Prop :=
  cs ≠ [] ∧ ∀ c ∈ cs, '0' ≤ c ∧ c ≤ '9'

/-- An optional sign and digits. -/
def IsInteger (cs : List Char) : Prop :=
  ∃ sign digits, cs = sign ++ digits ∧ (sign = [] ∨ sign = ['+'] ∨ sign = ['-']) ∧ IsDigits digits

/-- An integer and optionally a point and digits. -/
def IsDecimal (cs : List Char) : Prop :=
  ∃ whole fraction, cs = whole ++ fraction ∧ IsInteger whole ∧
    (fraction = [] ∨ ∃ digits, fraction = '.' :: digits ∧ IsDigits digits)

/-! ### Integers -/

theorem isDigits_eq_true_iff {cs : List Char} : isDigits cs = true ↔ IsDigits cs := by
  simp [isDigits, IsDigits, Char.isDigit, Char.le_def]

theorem IsDigits.isDigit {cs : List Char} (h : IsDigits cs) {c : Char} (hc : c ∈ cs) :
    c.isDigit = true := by
  simpa [Char.isDigit, Char.le_def] using h.2 c hc

theorem IsDigits.not_mem_of_not_isDigit {cs : List Char} (h : IsDigits cs) {c : Char}
    (hc : c.isDigit = false) : c ∉ cs :=
  fun hmem ↦ absurd (h.isDigit hmem) (by simp [hc])

/-- Digits have no sign. -/
theorem splitSign_of_isDigits {cs : List Char} (h : IsDigits cs) : splitSign cs = (false, cs) := by
  unfold splitSign
  split
  · exact absurd List.mem_cons_self (h.not_mem_of_not_isDigit (by decide))
  · exact absurd List.mem_cons_self (h.not_mem_of_not_isDigit (by decide))
  · rfl

/-- What follows the sign is digits where the text is an integer. -/
theorem isDigits_splitSign_iff {cs : List Char} : IsDigits (splitSign cs).2 ↔ IsInteger cs := by
  constructor
  · intro h
    unfold splitSign at h
    split at h
    · exact ⟨['-'], _, rfl, by simp, h⟩
    · exact ⟨['+'], _, rfl, by simp, h⟩
    · exact ⟨[], _, rfl, by simp, h⟩
  · rintro ⟨sign, digits, rfl, rfl | rfl | rfl, h⟩
    · rwa [List.nil_append, splitSign_of_isDigits h]
    · exact h
    · exact h

theorem integerOfChars?_isSome_iff {cs : List Char} :
    (integerOfChars? cs).isSome = true ↔ IsInteger cs := by
  rw [← isDigits_splitSign_iff, ← isDigits_eq_true_iff, integerOfChars?]
  dsimp only
  split <;> simp_all

theorem IsInteger.point_not_mem {cs : List Char} (h : IsInteger cs) : '.' ∉ cs := by
  obtain ⟨sign, digits, rfl, hsign, hdigits⟩ := h
  have hpoint : '.' ∉ digits := hdigits.not_mem_of_not_isDigit (by decide)
  rcases hsign with rfl | rfl | rfl <;> simpa using hpoint

/-! ### Decimals -/

theorem ne_point_of_not_mem {cs : List Char} (h : '.' ∉ cs) : ∀ c ∈ cs, decide (c ≠ '.') = true :=
  fun _ hc ↦ decide_eq_true fun heq ↦ h (heq ▸ hc)

theorem splitPoint_of_not_mem {cs : List Char} (h : '.' ∉ cs) : splitPoint cs = (cs, none) := by
  have hall := ne_point_of_not_mem h
  rw [splitPoint, List.span_eq_takeWhile_dropWhile, List.takeWhile_eq_self_iff.2 hall,
    List.dropWhile_eq_nil_iff.2 hall]

theorem splitPoint_append {whole : List Char} (h : '.' ∉ whole) (fraction : List Char) :
    splitPoint (whole ++ '.' :: fraction) = (whole, some fraction) := by
  have hall := ne_point_of_not_mem h
  rw [splitPoint, List.span_eq_takeWhile_dropWhile, List.takeWhile_append_of_pos hall,
    List.dropWhile_append_of_pos hall]
  simp

/-- Without a point a decimal is an integer. -/
theorem isDecimal_iff_of_not_mem {cs : List Char} (h : '.' ∉ cs) : IsDecimal cs ↔ IsInteger cs := by
  constructor
  · rintro ⟨whole, fraction, rfl, hwhole, rfl | ⟨digits, rfl, -⟩⟩
    · rwa [List.append_nil]
    · exact absurd (by simp) h
  · exact fun hcs ↦ ⟨cs, [], (List.append_nil cs).symm, hcs, Or.inl rfl⟩

/-- With a point, a decimal is an integer before the first point and digits behind it. -/
theorem isDecimal_append_iff {whole fraction : List Char} (h : '.' ∉ whole) :
    IsDecimal (whole ++ '.' :: fraction) ↔ IsInteger whole ∧ IsDigits fraction := by
  constructor
  · rintro ⟨whole', rest, heq, hwhole, rfl | ⟨digits, rfl, hdigits⟩⟩
    · rw [List.append_nil] at heq
      exact absurd (heq ▸ by simp) hwhole.point_not_mem
    · -- a text has one first point
      have hsplit := splitPoint_append h fraction
      rw [heq, splitPoint_append hwhole.point_not_mem] at hsplit
      obtain ⟨rfl, hfraction⟩ := Prod.mk.inj hsplit
      obtain rfl := Option.some.inj hfraction
      exact ⟨hwhole, hdigits⟩
  · exact fun ⟨hwhole, hdigits⟩ ↦ ⟨whole, _, rfl, hwhole, Or.inr ⟨fraction, rfl, hdigits⟩⟩

/-- A text is read as a decimal where it is one. -/
theorem decimalOfChars?_isSome_iff {cs : List Char} :
    (decimalOfChars? cs).isSome = true ↔ IsDecimal cs := by
  by_cases hpoint : '.' ∈ cs
  · obtain ⟨whole, fraction, rfl, hwhole⟩ := List.eq_append_cons_of_mem hpoint
    rw [isDecimal_append_iff hwhole, ← isDigits_splitSign_iff, ← isDigits_eq_true_iff,
      ← isDigits_eq_true_iff, decimalOfChars?, splitPoint_append hwhole]
    cases h : isDigits fraction <;> cases h' : isDigits (splitSign whole).2 <;> simp [h, h']
  · rw [isDecimal_iff_of_not_mem hpoint, ← integerOfChars?_isSome_iff, decimalOfChars?,
      splitPoint_of_not_mem hpoint]
    exact Bool.eq_iff_iff.1 Option.isSome_map

end ChainRecord.Numeral

namespace ChainRecord.Reading

open Numeral

/-! ### Refused texts -/

/-- A text that stands for no whole number. The empty one stands for zero. -/
def IsMalformedInteger (text : String) : Prop :=
  text ≠ "" ∧ ¬ IsInteger text.toList

/-- A text that stands for no rate. The empty one stands for zero. -/
def IsMalformedRate (text : String) : Prop :=
  text ≠ "" ∧ ¬ IsDecimal text.toList

theorem fails_moduleInteger_iff {text : String} :
    Fails (moduleInteger text) ↔ IsMalformedInteger text := by
  rw [IsMalformedInteger, ← integerOfChars?_isSome_iff, moduleInteger, moduleInteger?, integer?]
  by_cases hempty : text = ""
  · simp [hempty]
  · cases integerOfChars? text.toList <;> simp [hempty]

/-- A rate is read in one of two ways, as a point stands in it or not, and refused alike. -/
theorem fails_rate_iff {text : String} : Fails (rate text) ↔ IsMalformedRate text := by
  rw [IsMalformedRate, rate, rate?, decimal?, integer?]
  by_cases hempty : text = ""
  · simp [hempty]
  · by_cases hpoint : '.' ∈ text.toList
    · rw [← decimalOfChars?_isSome_iff]
      cases decimalOfChars? text.toList <;> simp [hempty, hpoint]
    · rw [isDecimal_iff_of_not_mem hpoint, ← integerOfChars?_isSome_iff]
      cases integerOfChars? text.toList <;> simp [hempty, hpoint]

end ChainRecord.Reading
