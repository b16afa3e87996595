import ChainRecord.Proofs.Json.Grammar
import ChainRecord.Proofs.NumeralSign
import Mathlib.Data.List.TakeDrop
import Mathlib.Data.List.TakeWhile

/-!
# Reading JSON tokens

Every string, every number and every name of the grammar is read as what it is written for
(`readScalar_eq_some`). Each reader is shown to read its form in front of any rest that cannot
continue it, and to leave that rest. Only numbers can be continued at all, and what stands behind a
value is a blank, a comma, a closing bracket or nothing (`Delimits`).

A character of a string has up to four forms, and the reader tells them apart by what follows a
backslash; from any of them it takes the one character it is written for (`readStringChars_form`).
An integer is read digit by digit and stays below sixty-four bits on the way, because digits never
make a number smaller.
-/

namespace ChainRecord.Numeral

/-- The sign of a number is split off in the same way in front of a rest. -/
theorem IsWritten.splitSign_append {cs : List Char} {n : Int} (h : IsWritten cs n)
    (rest : List Char) :
    ∃ negative digits, splitSign (cs ++ rest) = (negative, digits ++ rest) ∧ IsDigits digits ∧
      signed negative (digitsValue digits) = n := by
  cases h with
  | plain hdigits =>
    refine ⟨false, cs, ?_, hdigits, by rw [digitsValue_eq_numberOf]; rfl⟩
    rw [Numeral.splitSign_append hdigits.1, splitSign_of_isDigits hdigits]
  | @plus digits hdigits =>
    exact ⟨false, digits, rfl, hdigits, by rw [digitsValue_eq_numberOf]; rfl⟩
  | @minus digits hdigits =>
    exact ⟨true, digits, rfl, hdigits, by rw [digitsValue_eq_numberOf]; rfl⟩

theorem le_foldl_digits (cs : List Char) (n : Nat) :
    n ≤ cs.foldl (fun n c ↦ 10 * n + (c.toNat - 48)) n := by
  induction cs generalizing n with
  | nil => exact le_rfl
  | cons c cs ih =>
    have hstep : n ≤ 10 * n + (c.toNat - 48) := by omega
    exact hstep.trans (ih _)

end ChainRecord.Numeral

namespace ChainRecord.Json

open Numeral

/-! ### Blanks -/

theorem isJsonBlank_iff {c : Char} :
    isJsonBlank c = true ↔ c = ' ' ∨ c = '\t' ∨ c = '\n' ∨ c = '\r' := by
  simp [isJsonBlank, or_assoc]

/-- Blanks are skipped, up to the first character that is none. -/
theorem skipBlanks_append {blanks : List Char} (h : IsBlanks blanks) (cs : List Char) :
    skipBlanks (blanks ++ cs) = skipBlanks cs :=
  List.dropWhile_append_of_pos fun c hc ↦ isJsonBlank_iff.2 (h c hc)

theorem skipBlanks_cons {c : Char} (h : isJsonBlank c = false) (cs : List Char) :
    skipBlanks (c :: cs) = c :: cs :=
  List.dropWhile_cons_of_neg (Bool.eq_false_iff.1 h)

/-! ### What stands behind a value -/

/-- A text cannot continue a value: it is empty, or it begins with a blank, a comma or a closing
bracket. -/
def Delimits (rest : List Char) : Prop :=
  ∀ c ∈ rest.head?, c ∈ [' ', '\t', '\n', '\r', ',', ']', '\x7d']

theorem delimits_cons {c : Char} (h : c ∈ [' ', '\t', '\n', '\r', ',', ']', '\x7d'])
    (cs : List Char) : Delimits (c :: cs) :=
  fun _ hc ↦ Option.some.inj hc ▸ h

theorem delimits_blanks_append {blanks rest : List Char} (h : IsBlanks blanks)
    (hrest : Delimits rest) : Delimits (blanks ++ rest) := by
  cases blanks with
  | nil => exact hrest
  | cons c blanks =>
    refine delimits_cons ?_ _
    rcases h c List.mem_cons_self with rfl | rfl | rfl | rfl <;> simp

/-- What stands behind a value is no part of a number. -/
theorem Delimits.ends {rest : List Char} (h : Delimits rest) :
    ∀ c ∈ rest.head?, c.isDigit = false ∧ c ≠ '.' ∧ c ≠ 'e' ∧ c ≠ 'E' := by
  have hall : ∀ c ∈ [' ', '\t', '\n', '\r', ',', ']', '\x7d'],
      c.isDigit = false ∧ c ≠ '.' ∧ c ≠ 'e' ∧ c ≠ 'E' := by simp
  exact fun c hc ↦ hall c (h c hc)

/-! ### Strings -/

theorem hexDigit?_eq_some {n : Nat} {c : Char} (h : IsHexDigit n c) : hexDigit? c = some n := by
  have hall : ∀ n : Fin 16, hexDigit? (Hex.digit n) = some n.val ∧
      hexDigit? (Hex.digit n).toUpper = some n.val := by decide +kernel
  obtain ⟨hn, rfl | rfl⟩ := h
  · exact (hall ⟨n, hn⟩).1
  · exact (hall ⟨n, hn⟩).2

/-- The reader of an escape sees four characters, which are the digits of one number. -/
theorem HexForm.exists_digits {n : Nat} {digits : List Char} (h : HexForm n digits) :
    ∃ a b c d, digits = [a, b, c, d] ∧ hexUnit? a b c d = some n := by
  obtain ⟨ha, hb, hc, hd⟩ := h
  refine ⟨_, _, _, _, rfl, ?_⟩
  rw [hexUnit?, hexDigit?_eq_some ha, hexDigit?_eq_some hb, hexDigit?_eq_some hc,
    hexDigit?_eq_some hd]
  rfl

theorem LetterForm.simpleEscape?_eq_some {c letter : Char} (h : LetterForm c letter) :
    letter ≠ 'u' ∧ simpleEscape? letter = some c := by
  cases h <;> decide

/-- No character is half of a surrogate pair. -/
theorem toNat_lt_or_lt (c : Char) : c.toNat < 0xd800 ∨ 0xdfff < c.toNat :=
  c.valid.imp id And.left

theorem readStringChars_form {c : Char} {form : List Char} (h : CharForm c form)
    (rest : List Char) :
    readStringChars (form ++ rest) =
      (readStringChars rest).map fun (cs, after) ↦ (c :: cs, after) := by
  cases h with
  | plain hcontrol hquote hbackslash =>
    rw [List.singleton_append, readStringChars]
    · rw [if_neg (by simp [hbackslash, hcontrol])]
    · exact fun heq ↦ absurd heq hquote
    · exact fun _ _ _ _ _ heq ↦ absurd heq hbackslash
    · exact fun _ _ heq ↦ absurd heq hbackslash
  | letter hletter =>
    obtain ⟨hu, hescape⟩ := hletter.simpleEscape?_eq_some
    rw [List.cons_append, List.singleton_append, readStringChars, hescape]
    exact fun _ _ _ _ _ heq ↦ absurd heq hu
  | number hdigits =>
    obtain ⟨a, b, c', d, rfl, hunit⟩ := hdigits.exists_digits
    show readStringChars ('\\' :: 'u' :: a :: b :: c' :: d :: rest) = _
    rw [readStringChars, hunit]
    dsimp only
    rw [if_pos (toNat_lt_or_lt c), Char.ofNat_toNat]
  | @pair high low _ _ hhigh hlow h₁ h₂ h₃ h₄ hc =>
    obtain ⟨a, b, c', d, rfl, hunit⟩ := hhigh.exists_digits
    obtain ⟨e, f, g, i, rfl, hunit'⟩ := hlow.exists_digits
    show readStringChars ('\\' :: 'u' :: a :: b :: c' :: d :: '\\' :: 'u' :: e :: f :: g :: i ::
      rest) = _
    rw [readStringChars, hunit]
    dsimp only
    rw [if_neg (by omega), if_neg (by omega)]
    simp only [hunit']
    rw [if_pos ⟨h₃, h₄⟩, ← hc, Char.ofNat_toNat]

theorem readStringChars_eq_some {cs text : List Char} (h : CharsForm cs text) (rest : List Char) :
    readStringChars (text ++ '"' :: rest) = some (cs, rest) := by
  induction h with
  | nil => rw [List.nil_append, readStringChars]
  | cons hform _ ih => rw [List.append_assoc, readStringChars_form hform, ih, Option.map_some]

theorem StringForm.exists_body {s : String} {text : List Char} (h : StringForm s text) :
    ∃ body, text = '"' :: body ∧
      ∀ rest, readString (body ++ rest) = some (s, rest) := by
  cases h with
  | @mk body hbody =>
    refine ⟨body ++ ['"'], rfl, fun rest ↦ ?_⟩
    rw [List.append_assoc, List.singleton_append, readString, readStringChars_eq_some hbody,
      Option.map_some]
    exact congrArg some (Prod.ext (String.ofList_toList) rfl)

/-! ### Numbers -/

/-- No digit stands in front. -/
def StartsNoDigit (cs : List Char) : Prop :=
  ∀ c ∈ cs.head?, c.isDigit = false

theorem span_isDigit_append {digits rest : List Char} (hdigits : IsDigits digits)
    (hrest : StartsNoDigit rest) : (digits ++ rest).span Char.isDigit = (digits, rest) := by
  have hall : ∀ c ∈ digits, c.isDigit = true := fun _ ↦ hdigits.isDigit
  rw [List.span_eq_takeWhile_dropWhile, List.takeWhile_append_of_pos hall,
    List.dropWhile_append_of_pos hall]
  cases rest with
  | nil => simp
  | cons c rest => simp [hrest c rfl]

theorem readFractionDigits_eq_some {fraction text rest : List Char} (h : FractionForm fraction text)
    (hdigit : StartsNoDigit rest) (hpoint : ∀ c ∈ rest.head?, c ≠ '.') :
    readFractionDigits (text ++ rest) = some (fraction, rest) := by
  cases h with
  | none =>
    rw [List.nil_append, readFractionDigits]
    exact fun _ heq ↦ hpoint '.' (by rw [heq]; rfl) rfl
  | some hdigits =>
    rw [List.cons_append, readFractionDigits, span_isDigit_append hdigits hdigit]
    exact if_neg (by simpa using hdigits.1)

theorem readExponent_eq_some {exponent : Option Int} {text rest : List Char}
    (h : ExponentForm exponent text) (hrest : Delimits rest) :
    readExponent (text ++ rest) = some (exponent, rest) := by
  have hdigit : StartsNoDigit rest := fun c hc ↦ (hrest.ends c hc).1
  cases h with
  | none =>
    cases rest with
    | nil => rfl
    | cons c rest =>
      have hmark := (hrest.ends c rfl).2.2
      rw [List.nil_append, readExponent, if_neg (not_or_intro hmark.1 hmark.2)]
  | some hmark hwritten =>
    obtain ⟨negative, digits, hsplit, hdigits, rfl⟩ := hwritten.splitSign_append rest
    rw [List.cons_append, readExponent, if_pos hmark, hsplit]
    dsimp only
    rw [span_isDigit_append hdigits hdigit]
    exact if_neg (by simpa using hdigits.1)

theorem ExponentForm.head {exponent : Option Int} {text rest : List Char}
    (h : ExponentForm exponent text) (hrest : Delimits rest) :
    StartsNoDigit (text ++ rest) ∧ ∀ c ∈ (text ++ rest).head?, c ≠ '.' := by
  cases h with
  | none => exact ⟨fun c hc ↦ (hrest.ends c hc).1, fun c hc ↦ (hrest.ends c hc).2.1⟩
  | some hmark _ =>
    constructor <;> rintro c ⟨⟩ <;> rcases hmark with rfl | rfl <;> decide

theorem FractionForm.startsNoDigit {fraction text rest : List Char} (h : FractionForm fraction text)
    (hrest : StartsNoDigit rest) : StartsNoDigit (text ++ rest) := by
  cases h with
  | none => exact hrest
  | some _ =>
    rintro c ⟨⟩
    decide

theorem readNumberText_eq_some {t : NumberText} {text rest : List Char} (h : NumberTextForm t text)
    (hrest : Delimits rest) : readNumberText (text ++ rest) = some (t, rest) := by
  cases h with
  | @mk negative whole fraction fractionText exponentText exponent hwhole hfraction hexponent =>
    have hhead := hexponent.head hrest
    have hspan : (whole ++ fractionText ++ exponentText ++ rest).span Char.isDigit =
        (whole, fractionText ++ (exponentText ++ rest)) := by
      rw [List.append_assoc, List.append_assoc]
      exact span_isDigit_append hwhole.1 (hfraction.startsNoDigit hhead.1)
    have hfraction := readFractionDigits_eq_some hfraction hhead.1 hhead.2
    have hexponent := readExponent_eq_some hexponent hrest
    have hplain : ¬ (whole.isEmpty = true ∨ (whole.head? = some '0' ∧ 1 < whole.length)) := by
      rintro (hempty | ⟨hzero, hlength⟩)
      · exact hwhole.1.1 (List.isEmpty_iff.1 hempty)
      · rw [hwhole.2 hzero] at hlength
        exact absurd hlength (by decide)
    cases negative with
    | true =>
      show readNumberText ('-' :: (whole ++ fractionText ++ exponentText ++ rest)) = _
      rw [readNumberText]
      simp only [hspan, if_neg hplain, hfraction, hexponent, Option.bind_eq_bind, Option.bind_some]
    | false =>
      show readNumberText (whole ++ fractionText ++ exponentText ++ rest) = _
      rw [readNumberText]
      · simp only [hspan, if_neg hplain, hfraction, hexponent, Option.bind_eq_bind,
          Option.bind_some]
      · -- the digits do not begin with a sign
        obtain ⟨c, digits, rfl⟩ := List.exists_cons_of_ne_nil hwhole.1.1
        intro cs heq
        have hc : c = '-' := (List.cons.inj heq).1
        exact hwhole.1.not_mem_of_not_isDigit (c := '-') rfl (hc ▸ List.mem_cons_self)

/-- Digits are taken one by one as long as the number they are written for has sixty-four bits. -/
theorem absorbDigits_eq {cs : List Char} {n : Nat}
    (h : cs.foldl (fun n c ↦ 10 * n + (c.toNat - 48)) n < 2 ^ 64) :
    absorbDigits n cs = (cs.foldl (fun n c ↦ 10 * n + (c.toNat - 48)) n, cs.length) := by
  induction cs generalizing n with
  | nil => rfl
  | cons c cs ih =>
    have hstep : 10 * n + (c.toNat - 48) < 0x10000000000000000 := (le_foldl_digits cs _).trans_lt h
    rw [absorbDigits, if_pos hstep, ih h]
    rfl

theorem absorbDigits_zero {digits : List Char} (h : numberOf digits < 2 ^ 64) :
    absorbDigits 0 digits = (numberOf digits, digits.length) := by
  rw [← digitsValue_eq_numberOf] at h ⊢
  exact absorbDigits_eq h

/-- What is written for a number is the text of a number with that value. -/
theorem NumberForm.exists_text {n : Number} {cs : List Char} (h : NumberForm n cs) :
    ∃ t, NumberTextForm t cs ∧ t.value? = some n := by
  cases h with
  | natural hdigits hlt =>
    refine ⟨⟨false, cs, [], none⟩, ?_, ?_⟩
    · simpa using @NumberTextForm.mk false _ _ _ _ _ hdigits .none .none
    · simp [NumberText.value?, absorbDigits_zero hlt, signed]
  | @negative digits hdigits hpos hle =>
    refine ⟨⟨true, digits, [], none⟩, ?_, ?_⟩
    · simpa using @NumberTextForm.mk true _ _ _ _ _ hdigits .none .none
    · simp [NumberText.value?, absorbDigits_zero (hle.trans_lt (by decide)), signed, hpos]
      omega
  | double htext hvalue => exact ⟨_, htext, hvalue⟩

theorem readNumber_eq_some {n : Number} {cs rest : List Char} (h : NumberForm n cs)
    (hrest : Delimits rest) : readNumber (cs ++ rest) = some (n, rest) := by
  obtain ⟨t, htext, hvalue⟩ := h.exists_text
  rw [readNumber, readNumberText_eq_some htext hrest, Option.bind_eq_bind, Option.bind_some]
  dsimp only
  rw [hvalue]
  rfl

theorem NumberForm.exists_head {n : Number} {cs : List Char} (h : NumberForm n cs) :
    ∃ c rest, cs = c :: rest ∧ (c = '-' ∨ c.isDigit = true) := by
  obtain ⟨t, htext, -⟩ := h.exists_text
  cases htext with
  | @mk negative whole _ _ _ _ hwhole _ _ =>
    cases negative with
    | true => exact ⟨'-', _, rfl, Or.inl rfl⟩
    | false =>
      obtain ⟨c, digits, rfl⟩ := List.exists_cons_of_ne_nil hwhole.1.1
      exact ⟨c, _, rfl, Or.inr (hwhole.1.isDigit List.mem_cons_self)⟩

/-! ### Values that are no containers -/

/-- What a value that is no container begins with. -/
def scalarHeads : List Char :=
  ['n', 't', 'f', '"', '-', '0', '1', '2', '3', '4', '5', '6', '7', '8', '9']

theorem mem_scalarHeads_of_isDigit {c : Char} (h : c.isDigit = true) : c ∈ scalarHeads := by
  have hall : ∀ n : Fin 10, Char.ofNat (48 + n) ∈ scalarHeads := by decide
  have hrange : 48 ≤ c.toNat ∧ c.toNat ≤ 57 := by
    simpa [Char.isDigit, UInt32.le_iff_toNat_le] using h
  have hvalue : 48 + (c.toNat - 48) = c.toNat := by omega
  have hmem := hall ⟨c.toNat - 48, by omega⟩
  rwa [hvalue, Char.ofNat_toNat] at hmem

theorem ScalarForm.exists_head {value : Json} {cs : List Char} (h : ScalarForm value cs) :
    ∃ c rest, cs = c :: rest ∧ c ∈ scalarHeads := by
  cases h with
  | null | truth | untruth => exact ⟨_, _, rfl, by decide⟩
  | number hnumber =>
    obtain ⟨c, rest, rfl, rfl | hdigit⟩ := hnumber.exists_head
    · exact ⟨_, _, rfl, by decide⟩
    · exact ⟨c, rest, rfl, mem_scalarHeads_of_isDigit hdigit⟩
  | string hstring =>
    obtain ⟨body, rfl, -⟩ := hstring.exists_body
    exact ⟨_, _, rfl, by decide⟩

theorem readScalar_eq_some {value : Json} {cs rest : List Char} (h : ScalarForm value cs)
    (hrest : Delimits rest) : readScalar (cs ++ rest) = some (value, rest) := by
  cases h with
  | null | truth | untruth => rfl
  | number hnumber =>
    have hread := readNumber_eq_some hnumber hrest
    obtain ⟨c, digits, rfl, hc⟩ := hnumber.exists_head
    -- nothing else begins like a number
    have hne : ∀ d ∈ ['"', 'n', 't', 'f'], c ≠ d := by
      have hall : ∀ d ∈ ['"', 'n', 't', 'f'], d ≠ '-' ∧ d.isDigit = false := by simp
      rintro d hd rfl
      rcases hc with hminus | hdigit
      · exact (hall c hd).1 hminus
      · exact Bool.false_ne_true ((hall c hd).2.symm.trans hdigit)
    rw [List.cons_append] at hread ⊢
    rw [readScalar, hread]
    · rfl
    all_goals exact fun _ heq ↦ hne _ (by decide) (List.cons.inj heq).1
  | string hstring =>
    obtain ⟨body, rfl, hread⟩ := hstring.exists_body
    rw [List.cons_append, readScalar, hread]
    rfl

end ChainRecord.Json
