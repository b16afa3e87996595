import ChainRecord.Proofs.TransferPayload
import ChainRecord.Proofs.Trimming

/-!
# Amounts in attributes

An attribute that is an amount is the amount and a unit behind it. The unit is taken off first, and
it is all that begins with a character that no amount has. So a text without an amount is all unit,
and is read as zero; and an exponent is a unit, so it is dropped.

These are the only two ways to read another number than the text says (`decimal_exact_iff`): where
the text begins like an amount and no exponent follows, it is read as the amount that it says, and
refused if it says none. A coin is read from the same text without blanks around it, so the two
readings agree on all coins but those behind a blank.
-/

namespace ChainRecord

namespace Numeral

/-- An amount with an optional minus is written for a number. -/
inductive IsSignedAmount : List Char → ℚ → Prop
  /-- Without a sign. -/
  | plain {cs : List Char} {q : ℚ} : IsAmount cs q → IsSignedAmount cs q
  /-- A minus is for the opposite number. -/
  | minus {cs : List Char} {q : ℚ} : IsAmount cs q → IsSignedAmount ('-' :: cs) (-q)

/-- A text is an amount, as long as can be, and a unit behind it. -/
inductive HasAmount : List Char → ℚ → List Char → Prop
  /-- The unit does not begin with a character of an amount. -/
  | mk {amount unit : List Char} {q : ℚ} : IsSignedAmount amount q →
      (∀ c ∈ unit.head?, ¬ IsAmountChar c) → HasAmount (amount ++ unit) q unit

/-- A mark, an optional sign and a digit, with anything behind them. -/
inductive BeginsWithExponent : List Char → Prop
  /-- The digit is the first of the exponent. -/
  | mk {mark digit : Char} {sign rest : List Char} : mark = 'e' ∨ mark = 'E' →
      sign = [] ∨ sign = ['+'] ∨ sign = ['-'] → '0' ≤ digit ∧ digit ≤ '9' →
      BeginsWithExponent (mark :: sign ++ digit :: rest)

/-- A text says an amount: the unit behind it does not continue the number. -/
def SaysAmount (cs : List Char) (q : ℚ) : Prop :=
  ∃ unit, HasAmount cs q unit ∧ ¬ BeginsWithExponent unit

/-- A text has an exponent behind an amount. -/
def HasExponent (cs : List Char) (q : ℚ) : Prop :=
  ∃ unit, HasAmount cs q unit ∧ BeginsWithExponent unit

/-- A text begins like an amount. -/
def BeginsLikeAmount (cs : List Char) : Prop :=
  ∃ c ∈ cs.head?, IsAmountChar c

/-! ### Signed amounts -/

theorem IsSignedAmount.isAmountChar {cs : List Char} {q : ℚ} (h : IsSignedAmount cs q) :
    ∀ c ∈ cs, IsAmountChar c := by
  cases h with
  | plain hamount => exact hamount.isAmountChar
  | minus hamount => exact List.forall_mem_cons.2 ⟨Or.inr (Or.inr rfl), hamount.isAmountChar⟩

theorem IsSignedAmount.ne_nil {cs : List Char} {q : ℚ} (h : IsSignedAmount cs q) : cs ≠ [] := by
  cases h with
  | plain hamount => exact hamount.ne_nil
  | minus _ => exact List.cons_ne_nil _ _

theorem IsSignedAmount.exists_decimal {cs : List Char} {q : ℚ} (h : IsSignedAmount cs q) :
    ∃ x, decimalOfChars? cs = some x ∧ x.value = q := by
  cases h with
  | plain hamount => exact value_of_isAmount hamount
  | minus hamount => exact value_of_signed_isAmount true hamount

/-- A decimal without a plus is an amount, possibly behind a minus. -/
theorem IsDecimal.exists_isSignedAmount {cs : List Char} (h : IsDecimal cs) (hplus : '+' ∉ cs) :
    ∃ q, IsSignedAmount cs q := by
  obtain ⟨whole, fraction, rfl, ⟨sign, digits, rfl, hsign, hdigits⟩, hfraction⟩ := h
  have hamount : ∃ q, IsAmount (digits ++ fraction) q := by
    rcases hfraction with rfl | ⟨places, rfl, hplaces⟩
    · exact ⟨_, by simpa using IsAmount.whole hdigits⟩
    · exact ⟨_, .decimal hdigits hplaces⟩
  obtain ⟨q, hq⟩ := hamount
  rcases hsign with rfl | rfl | rfl
  · exact ⟨q, .plain hq⟩
  · exact absurd (by simp) hplus
  · exact ⟨-q, .minus hq⟩

theorem IsWrittenAt.exists_isSignedAmount {cs : List Char} {n : Int} {places : Nat}
    (h : IsWrittenAt cs n places) (hplus : '+' ∉ cs) : ∃ q, IsSignedAmount cs q := by
  have hread : decimalOfChars? cs = some ⟨n, places⟩ :=
    decimalOfChars?_eq_some_iff.2 ⟨n, places, h, rfl⟩
  have hdecimal : IsDecimal cs := decimalOfChars?_isSome_iff.1 (hread ▸ rfl)
  exact hdecimal.exists_isSignedAmount hplus

/-- Among the texts of amount characters, those that are read are the amounts. -/
theorem exists_decimalOfChars?_iff {cs : List Char} (hchars : ∀ c ∈ cs, IsAmountChar c) {q : ℚ} :
    (∃ x, decimalOfChars? cs = some x ∧ x.value = q) ↔ IsSignedAmount cs q := by
  constructor
  · rintro ⟨x, hx, rfl⟩
    have hdecimal : IsDecimal cs := decimalOfChars?_isSome_iff.1 (hx ▸ rfl)
    obtain ⟨q, hq⟩ := hdecimal.exists_isSignedAmount
      fun hplus ↦ absurd (hchars '+' hplus) (by decide)
    obtain ⟨x', hx', rfl⟩ := hq.exists_decimal
    obtain rfl := Option.some.inj (hx.symm.trans hx')
    exact hq
  · exact IsSignedAmount.exists_decimal

/-! ### Amounts and units -/

theorem splitAmount_fst_append_snd (cs : List Char) :
    (CoinAmount.splitAmount cs).1 ++ (CoinAmount.splitAmount cs).2 = cs := by
  rw [CoinAmount.splitAmount, List.span_eq_takeWhile_dropWhile]
  exact List.takeWhile_append_dropWhile

theorem isAmountChar_of_mem_splitAmount {cs : List Char} :
    ∀ c ∈ (CoinAmount.splitAmount cs).1, IsAmountChar c := by
  rw [CoinAmount.splitAmount, List.span_eq_takeWhile_dropWhile]
  exact fun c hc ↦ isAmountChar_iff.1 (List.mem_takeWhile_imp hc)

theorem not_isAmountChar_of_splitAmount {cs : List Char} :
    ∀ c ∈ (CoinAmount.splitAmount cs).2.head?, ¬ IsAmountChar c := by
  rw [CoinAmount.splitAmount, List.span_eq_takeWhile_dropWhile]
  intro c hc hchar
  have hnot := List.head?_dropWhile_not CoinAmount.isAmountChar cs
  rw [hc] at hnot
  simp [isAmountChar_iff.2 hchar] at hnot

/-- The amount and the unit of a text are what it is split into. -/
theorem hasAmount_iff {cs unit : List Char} {q : ℚ} :
    HasAmount cs q unit ↔
      IsSignedAmount (CoinAmount.splitAmount cs).1 q ∧ (CoinAmount.splitAmount cs).2 = unit := by
  constructor
  · rintro ⟨hamount, hunit⟩
    rw [splitAmount_append hamount.isAmountChar hunit]
    exact ⟨hamount, rfl⟩
  · rintro ⟨hamount, rfl⟩
    have hhas := HasAmount.mk hamount (@not_isAmountChar_of_splitAmount cs)
    rwa [splitAmount_fst_append_snd] at hhas

/-- A text has one amount and one unit. -/
theorem HasAmount.unique {cs unit unit' : List Char} {q q' : ℚ} (h : HasAmount cs q unit)
    (h' : HasAmount cs q' unit') : q = q' ∧ unit = unit' := by
  obtain ⟨hamount, rfl⟩ := hasAmount_iff.1 h
  obtain ⟨hamount', rfl⟩ := hasAmount_iff.1 h'
  obtain ⟨x, hx, rfl⟩ := hamount.exists_decimal
  obtain ⟨x', hx', rfl⟩ := hamount'.exists_decimal
  exact ⟨congrArg _ (Option.some.inj (hx.symm.trans hx')), rfl⟩

theorem beginsLikeAmount_iff {cs : List Char} :
    BeginsLikeAmount cs ↔ (CoinAmount.splitAmount cs).1 ≠ [] := by
  rw [BeginsLikeAmount, CoinAmount.splitAmount, List.span_eq_takeWhile_dropWhile]
  cases cs with
  | nil => simp
  | cons c cs => simp [List.takeWhile_cons, ← isAmountChar_iff]

theorem HasAmount.beginsLikeAmount {cs unit : List Char} {q : ℚ} (h : HasAmount cs q unit) :
    BeginsLikeAmount cs :=
  beginsLikeAmount_iff.2 (hasAmount_iff.1 h).1.ne_nil

end Numeral

namespace Json

/-! ### Texts of values -/

theorem ofList_ne_empty {cs : List Char} (h : cs ≠ []) : String.ofList cs ≠ "" :=
  fun heq ↦ h (String.ofList_injective heq)

theorem magnitudeText_ne_nil (x : Binary64) : magnitudeText x ≠ [] := by
  rw [magnitudeText]
  split
  · exact List.cons_ne_nil _ _
  · dsimp only
    split
    · rw [positional]
      split_ifs <;> simp
    · simp [scientific]

theorem Number.text_ne_empty (n : Number) : n.text ≠ "" := by
  cases n with
  | int n => cases n <;> simp [Number.text, Int.toString_eq_repr, Int.repr]
  | double negative x =>
    refine ofList_ne_empty ?_
    split_ifs
    · exact List.cons_ne_nil _ _
    · exact magnitudeText_ne_nil x

/-- The text of a value is never empty. -/
theorem text_ne_empty (value : Json) : value.text ≠ "" := by
  cases value with
  | null => simp [text]
  | bool b => cases b <;> simp [text]
  | number n => exact Number.text_ne_empty n
  | string s => exact ofList_ne_empty (by simp)
  | array items => simp [text]
  | object members => simp [text]

end Json

namespace CoinAmount

open Numeral

/-- A coin is all the characters of an amount, which are a decimal, and a denomination. -/
theorem ofChars?_eq_some_iff {cs : List Char} {coin : CoinAmount} :
    ofChars? cs = some coin ↔
      ∃ amount denom x, amount ++ denom = cs ∧ (∀ c ∈ amount, IsAmountChar c) ∧ denom ≠ [] ∧
        (∀ c ∈ denom.head?, ¬ IsAmountChar c) ∧ decimalOfChars? amount = some x ∧
        ⟨x, String.ofList denom⟩ = coin := by
  constructor
  · intro h
    rw [ofChars?] at h
    split at h
    · cases h
    · rename_i amount denom hdenom hsplit
      obtain ⟨x, hx, hcoin⟩ := Option.map_eq_some_iff.1 h
      have htext := splitAmount_fst_append_snd cs
      have hamount := @isAmountChar_of_mem_splitAmount cs
      have hunit := @not_isAmountChar_of_splitAmount cs
      rw [hsplit] at htext hamount hunit
      exact ⟨amount, denom, x, htext, hamount, fun hnil ↦ hdenom hnil, hunit, hx, hcoin⟩
  · rintro ⟨amount, denom, x, rfl, hamount, hdenom, hunit, hx, rfl⟩
    rw [ofChars?, splitAmount_append hamount hunit]
    cases denom with
    | nil => exact absurd rfl hdenom
    | cons c denom => exact Option.map_eq_some_iff.2 ⟨x, hx, rfl⟩

theorem ofText_eq_ok_iff {text : String} {coin : CoinAmount} :
    ofText text = .ok coin ↔ ofChars? (Text.trimChars text.toList) = some coin := by
  rw [ofText]
  cases ofChars? (Text.trimChars text.toList) <;> simp

end CoinAmount

namespace Attributes

open Numeral

variable {members : Json.Members} {key : String}

/-! ### What is read -/

/-- The amount of a text, by what it is split into. -/
theorem decimal_eq (members : Json.Members) (key : String) :
    decimal members key =
      if (CoinAmount.splitAmount (text members key).toList).1 = [] then .ok Decimal.zero
      else
        match decimalOfChars? (CoinAmount.splitAmount (text members key).toList).1 with
        | some x => .ok x
        | none => .error (.invalidDecimal (text members key)) := by
  rw [decimal]
  split
  · rename_i hsplit
    rw [hsplit, if_pos rfl]
  · rename_i hne hsplit
    rw [hsplit]
    exact (if_neg hne).symm

theorem decimal_of_not_beginsLikeAmount (h : ¬ BeginsLikeAmount (text members key).toList) :
    decimal members key = .ok Decimal.zero := by
  rw [beginsLikeAmount_iff, not_not] at h
  rw [decimal_eq, if_pos h]

/-- Where a text begins like an amount, it is read as the amount that it begins with. -/
theorem exists_decimal_iff_of_beginsLikeAmount (h : BeginsLikeAmount (text members key).toList)
    {q : ℚ} :
    (∃ x, decimal members key = .ok x ∧ x.value = q) ↔
      ∃ unit, HasAmount (text members key).toList q unit := by
  simp only [hasAmount_iff, exists_and_left, exists_eq', and_true]
  rw [decimal_eq, if_neg (beginsLikeAmount_iff.1 h),
    ← exists_decimalOfChars?_iff isAmountChar_of_mem_splitAmount]
  cases decimalOfChars? (CoinAmount.splitAmount (text members key).toList).1 <;> simp

/-- What is read is what the text says, or zero, or what stands before an exponent. -/
theorem exists_decimal_iff {q : ℚ} :
    (∃ x, decimal members key = .ok x ∧ x.value = q) ↔
      SaysAmount (text members key).toList q ∨ HasExponent (text members key).toList q ∨
        (¬ BeginsLikeAmount (text members key).toList ∧ q = 0) := by
  by_cases hbegins : BeginsLikeAmount (text members key).toList
  · rw [exists_decimal_iff_of_beginsLikeAmount hbegins, SaysAmount, HasExponent, ← or_assoc,
      ← exists_or]
    simp only [← and_or_left, em', and_true, hbegins, not_true_eq_false, false_and, or_false]
  · rw [decimal_of_not_beginsLikeAmount hbegins]
    have hnone (unit : List Char) : ¬ HasAmount (text members key).toList q unit :=
      fun hhas ↦ hbegins hhas.beginsLikeAmount
    simp only [SaysAmount, HasExponent, hnone, hbegins]
    simp [eq_comm]

/-- A text that begins like an amount and has none is refused, and no other text is. -/
theorem decimal_eq_error_iff {e : AttributeError} :
    decimal members key = .error e ↔
      e = .invalidDecimal (text members key) ∧ BeginsLikeAmount (text members key).toList ∧
        ∀ q unit, ¬ HasAmount (text members key).toList q unit := by
  by_cases hbegins : BeginsLikeAmount (text members key).toList
  · have hread {q : ℚ} := exists_decimal_iff_of_beginsLikeAmount hbegins (q := q)
    simp only [← not_exists, ← hread, hbegins, true_and]
    rw [decimal_eq, if_neg (beginsLikeAmount_iff.1 hbegins)]
    cases decimalOfChars? (CoinAmount.splitAmount (text members key).toList).1 <;> simp [eq_comm]
  · simp [decimal_of_not_beginsLikeAmount hbegins, hbegins]

/-! ### Coins -/

/-- Only the end of a text is trimmed that does not begin with a blank. -/
theorem exists_eq_trimChars_append {cs : List Char} (h : ∀ c ∈ cs.head?, Text.isBlank c = false) :
    ∃ blanks, cs = Text.trimChars cs ++ blanks := by
  obtain ⟨blanks, hblanks⟩ := List.rdropWhile_prefix Text.isBlank cs
  refine ⟨blanks, ?_⟩
  rw [Text.trimChars_eq, Text.dropWhile_isBlank_of_head? h]
  exact hblanks.symm

theorem isBlank_eq_false {c : Char} (h : IsAmountChar c) : Text.isBlank c = false := by
  have hrange : 45 ≤ c.toNat ∧ c.toNat ≤ 57 := by
    rcases h with ⟨hlow, hhigh⟩ | rfl | rfl
    · rw [Char.le_def, UInt32.le_iff_toNat_le] at hlow hhigh
      exact ⟨le_trans (by decide) hlow, hhigh⟩
    · decide
    · decide
  simp only [Text.isBlank, Bool.or_eq_false_iff, Bool.and_eq_false_iff, decide_eq_false_iff_not,
    beq_eq_false_iff_ne]
  omega

/-- A coin is an amount and a denomination in the trimmed text. -/
theorem exists_of_coin {c : CoinAmount} (h : coin members key = .ok (some c)) :
    ∃ amount denom, Text.trimChars (text members key).toList = amount ++ denom ∧ denom ≠ [] ∧
      (∀ d ∈ denom.head?, ¬ IsAmountChar d) ∧ IsSignedAmount amount c.amount.value := by
  have hread : CoinAmount.ofText (text members key) = .ok c := by
    rw [coin] at h
    split at h
    · cases h
    · obtain ⟨c', hc', hsome⟩ := map_eq_ok_iff.1 h
      exact Option.some.inj hsome ▸ hc'
  obtain ⟨amount, denom, x, htext, hchars, hdenom, hunit, hx, rfl⟩ :=
    CoinAmount.ofChars?_eq_some_iff.1 (CoinAmount.ofText_eq_ok_iff.1 hread)
  exact ⟨amount, denom, htext.symm, hdenom, hunit,
    (exists_decimalOfChars?_iff hchars).1 ⟨x, hx, rfl⟩⟩

/-- The amount of a coin is the amount of the attribute, unless there is a blank in front of it. -/
theorem exists_decimal_eq_amount_iff {c : CoinAmount} (h : coin members key = .ok (some c)) :
    (∃ x, decimal members key = .ok x ∧ x.value = c.amount.value) ↔
      (∀ b ∈ (text members key).toList.head?, Text.isBlank b = false) ∨ c.amount.value = 0 := by
  obtain ⟨amount, denom, htrim, hdenom, hunit, hamount⟩ := exists_of_coin h
  by_cases hblank : ∀ b ∈ (text members key).toList.head?, Text.isBlank b = false
  · refine iff_of_true ?_ (Or.inl hblank)
    obtain ⟨blanks, htext⟩ := exists_eq_trimChars_append hblank
    -- the unit is not empty, so the blanks behind it do not change where it begins
    have hhas : HasAmount (text members key).toList c.amount.value (denom ++ blanks) := by
      rw [htext, htrim, List.append_assoc]
      refine .mk hamount ?_
      rwa [List.head?_append_of_ne_nil _ hdenom]
    exact (exists_decimal_iff_of_beginsLikeAmount hhas.beginsLikeAmount).2 ⟨_, hhas⟩
  · have hbegins : ¬ BeginsLikeAmount (text members key).toList :=
      fun ⟨c, hc, hchar⟩ ↦ hblank fun b hb ↦
        Option.some.inj (hc.symm.trans hb) ▸ isBlank_eq_false hchar
    rw [decimal_of_not_beginsLikeAmount hbegins, or_iff_right hblank]
    simp [eq_comm]

/-! ### Absent values -/

/-- Nothing is bound to a key, or nothing that has a text. -/
def IsAbsent (members : Json.Members) (key : String) : Prop :=
  Json.lookup? members key = none ∨ Json.lookup? members key = some .null ∨
    Json.lookup? members key = some (.string "")

theorem text_eq_empty_iff : text members key = "" ↔ IsAbsent members key := by
  rw [text, IsAbsent]
  split <;> simp_all [Json.text_ne_empty]

/-- **Amounts are read exactly but for two sorts of text.** Nothing but the amount that a text says
is read, and zero for an absent value, if and only if there is no exponent behind the amount and the
text begins like an amount. In particular every amount that a text says is read. The only texts that
are refused are those that begin like an amount and have none, and a coin of the same text has the
amount that is read unless there is a blank in front of it. -/
theorem decimal_exact_iff (members : Json.Members) (key : String) :
    ((∀ x, decimal members key = .ok x →
        (IsAbsent members key ∧ x.value = 0) ∨ SaysAmount (text members key).toList x.value) ↔
      (∀ q, ¬ HasExponent (text members key).toList q) ∧
        (IsAbsent members key ∨ BeginsLikeAmount (text members key).toList)) ∧
    (∀ q, SaysAmount (text members key).toList q → ∃ x, decimal members key = .ok x ∧ x.value = q) ∧
    (∀ q, HasExponent (text members key).toList q →
      ∃ x, decimal members key = .ok x ∧ x.value = q) ∧
    (¬ BeginsLikeAmount (text members key).toList → decimal members key = .ok Decimal.zero) ∧
    (∀ e, decimal members key = .error e ↔
      e = .invalidDecimal (text members key) ∧ BeginsLikeAmount (text members key).toList ∧
        ∀ q unit, ¬ HasAmount (text members key).toList q unit) ∧
    ∀ c, coin members key = .ok (some c) →
      ((∃ x, decimal members key = .ok x ∧ x.value = c.amount.value) ↔
        (∀ b ∈ (text members key).toList.head?, Text.isBlank b = false) ∨ c.amount.value = 0) := by
  refine ⟨⟨fun h ↦ ⟨fun q hexponent ↦ ?_, ?_⟩, ?_⟩, fun q hsaid ↦ exists_decimal_iff.2 (.inl hsaid),
    fun q hexponent ↦ exists_decimal_iff.2 (.inr (.inl hexponent)),
    decimal_of_not_beginsLikeAmount, fun e ↦ decimal_eq_error_iff,
    fun c hcoin ↦ exists_decimal_eq_amount_iff hcoin⟩
  · -- what stands before an exponent is read, and is neither absent nor said
    obtain ⟨unit, hhas, hunit⟩ := hexponent
    obtain ⟨x, hx, -⟩ := exists_decimal_iff.2 (.inr (.inl ⟨unit, hhas, hunit⟩))
    rcases h x hx with ⟨habsent, -⟩ | ⟨unit', hhas', hunit'⟩
    · have hbegins := hhas.beginsLikeAmount
      rw [text_eq_empty_iff.2 habsent] at hbegins
      obtain ⟨c, hc, -⟩ := hbegins
      cases hc
    · exact hunit' ((hhas.unique hhas').2 ▸ hunit)
  · by_cases hbegins : BeginsLikeAmount (text members key).toList
    · exact Or.inr hbegins
    · rcases h _ (decimal_of_not_beginsLikeAmount hbegins) with ⟨habsent, -⟩ | ⟨unit, hhas, -⟩
      · exact Or.inl habsent
      · exact absurd hhas.beginsLikeAmount hbegins
  · rintro ⟨hexponent, hpresent⟩ x hx
    rcases exists_decimal_iff.1 ⟨x, hx, rfl⟩ with hsaid | hhas | ⟨hbegins, hzero⟩
    · exact Or.inr hsaid
    · exact absurd hhas (hexponent _)
    · exact Or.inl ⟨hpresent.resolve_right hbegins, hzero⟩

/-- A thousand is read with its unit. A blank in front of a coin makes the amount zero. -/
theorem decimal_exact_iff_coins :
    (SaysAmount (text [("fee", .string "1000utia")] "fee").toList 1000 ∧
      ∃ x, decimal [("fee", .string "1000utia")] "fee" = .ok x ∧ x.value = 1000) ∧
    coin [("fee", .string " 5utia")] "fee" = .ok (some ⟨⟨5, 0⟩, "utia"⟩) ∧
      ¬ ∃ x, decimal [("fee", .string " 5utia")] "fee" = .ok x ∧
        x.value = (⟨5, 0⟩ : Decimal).value := by
  have hdigits : IsDigits ['1', '0', '0', '0'] := by simp [IsDigits]
  have hhas : HasAmount (['1', '0', '0', '0'] ++ ['u', 't', 'i', 'a'])
      (numberOf ['1', '0', '0', '0']) ['u', 't', 'i', 'a'] :=
    .mk (.plain (.whole hdigits)) fun c hc ↦ by cases hc; decide
  have hunit : ¬ BeginsWithExponent ['u', 't', 'i', 'a'] := by
    generalize heq : ['u', 't', 'i', 'a'] = unit
    rintro ⟨rfl | rfl, -, -⟩ <;> cases heq
  have hnumber : numberOf ['1', '0', '0', '0'] = 1000 := rfl
  rw [hnumber, Nat.cast_ofNat] at hhas
  have hsaid : SaysAmount (text [("fee", .string "1000utia")] "fee").toList 1000 := ⟨_, hhas, hunit⟩
  have hcoin : coin [("fee", .string " 5utia")] "fee" = .ok (some ⟨⟨5, 0⟩, "utia"⟩) := rfl
  refine ⟨⟨hsaid, (decimal_exact_iff _ _).2.1 _ hsaid⟩, hcoin, fun hread ↦ ?_⟩
  rcases ((decimal_exact_iff _ _).2.2.2.2.2 _ hcoin).1 hread with hblank | hzero
  · exact absurd (hblank ' ' rfl) (by decide)
  · norm_num [Decimal.value] at hzero

/-- A text without an amount, and one with an exponent, are read as numbers that they do not say. -/
theorem decimal_of_unit_of_exponent :
    (decimal [("amount", .string "utia")] "amount" = .ok Decimal.zero ∧
      ¬ IsAbsent [("amount", .string "utia")] "amount" ∧
      ∀ q, ¬ SaysAmount (text [("amount", .string "utia")] "amount").toList q) ∧
    decimal [("fee", .string "1e5")] "fee" = .ok ⟨1, 0⟩ ∧
      ∀ q, ¬ SaysAmount (text [("fee", .string "1e5")] "fee").toList q := by
  have hutia : ¬ BeginsLikeAmount ['u', 't', 'i', 'a'] := by
    rintro ⟨c, hc, hchar⟩
    cases hc
    exact absurd hchar (by decide)
  have hdigits : IsDigits ['1'] := by simp [IsDigits]
  have hhas : HasAmount (['1'] ++ ['e', '5']) (numberOf ['1']) ['e', '5'] :=
    .mk (.plain (.whole hdigits)) fun c hc ↦ by cases hc; decide
  have hexponent : BeginsWithExponent ['e', '5'] :=
    @BeginsWithExponent.mk 'e' '5' [] [] (.inl rfl) (.inl rfl) ⟨by decide, by decide⟩
  refine ⟨⟨rfl, ?_, ?_⟩, rfl, ?_⟩
  · rw [← text_eq_empty_iff]
    decide
  · rintro q ⟨unit, hread, -⟩
    exact hutia hread.beginsLikeAmount
  · rintro q ⟨unit, hread, hunit⟩
    exact hunit ((hhas.unique hread).2 ▸ hexponent)

end Attributes

end ChainRecord
