import ChainRecord.Proofs.Json.Texts

/-!
# Only JSON texts are read

Nothing but the texts of the grammar is read, and so a text is read as a value exactly where it is
written for it (`ofText?_eq_some_iff`).

Each reader takes a front of the characters it is given, blanks and a form of the grammar, and
leaves the rest (`Takes`). As on the way from texts to values, arrays and objects are the one case
of a series between brackets, and the induction on the level of nesting carries it from values to
containers of values (`takes_valueForm`).
-/

namespace ChainRecord.Json

open Numeral

/-! ### Strings -/

theorem ofNat_add_sub {c : Char} {k : Nat} (h : k ≤ c.toNat) :
    Char.ofNat (k + (c.toNat - k)) = c := by
  rw [Nat.add_sub_cancel' h, Char.ofNat_toNat]

theorem isHexDigit_of_hexDigit? {c : Char} {n : Nat} (h : hexDigit? c = some n) :
    IsHexDigit n c := by
  have hdecimal : ∀ n : Fin 10, Char.ofNat (48 + n) = Hex.digit n := by decide +kernel
  have hlower : ∀ n : Fin 6, Char.ofNat (97 + n) = Hex.digit (10 + n) := by decide +kernel
  have hupper : ∀ n : Fin 6, Char.ofNat (65 + n) = (Hex.digit (10 + n)).toUpper := by
    decide +kernel
  simp only [hexDigit?, Char.le_def, UInt32.le_iff_toNat_le] at h
  split_ifs at h with h₁ h₂ h₃
  · have hrange : 48 ≤ c.toNat ∧ c.toNat ≤ 57 := h₁
    have heq := hdecimal ⟨c.toNat - 48, by omega⟩
    rw [ofNat_add_sub hrange.1] at heq
    obtain rfl := Option.some.inj h
    exact ⟨by omega, Or.inl heq⟩
  · have hrange : 97 ≤ c.toNat ∧ c.toNat ≤ 102 := h₂
    have heq := hlower ⟨c.toNat - 97, by omega⟩
    have hn : n = 10 + (c.toNat - 97) := by
      have := Option.some.inj h
      omega
    rw [ofNat_add_sub hrange.1] at heq
    exact ⟨by omega, Or.inl (hn ▸ heq)⟩
  · have hrange : 65 ≤ c.toNat ∧ c.toNat ≤ 70 := h₃
    have heq := hupper ⟨c.toNat - 65, by omega⟩
    have hn : n = 10 + (c.toNat - 65) := by
      have := Option.some.inj h
      omega
    rw [ofNat_add_sub hrange.1] at heq
    exact ⟨by omega, Or.inr (hn ▸ heq)⟩

theorem hexForm_of_hexUnit? {a b c d : Char} {n : Nat} (h : hexUnit? a b c d = some n) :
    HexForm n [a, b, c, d] := by
  simp only [hexUnit?, Option.bind_eq_bind, Option.bind_eq_some_iff, Option.some.injEq] at h
  obtain ⟨p, ha, q, hb, r, hc, s, hd, rfl⟩ := h
  exact .mk (isHexDigit_of_hexDigit? ha) (isHexDigit_of_hexDigit? hb) (isHexDigit_of_hexDigit? hc)
    (isHexDigit_of_hexDigit? hd)

theorem letterForm_of_simpleEscape? {letter c : Char} (h : simpleEscape? letter = some c) :
    LetterForm c letter := by
  unfold simpleEscape? at h
  split_ifs at h with hself hb hf hn hr ht <;> obtain rfl := Option.some.inj h
  · rcases hself with rfl | rfl | rfl
    · exact .quote
    · exact .backslash
    · exact .solidus
  · exact hb ▸ .backspace
  · exact hf ▸ .formFeed
  · exact hn ▸ .lineFeed
  · exact hr ▸ .carriageReturn
  · exact ht ▸ .tab

theorem HexForm.lt {n : Nat} {digits : List Char} (h : HexForm n digits) : n < 0x10000 := by
  obtain ⟨⟨hp, -⟩, ⟨hq, -⟩, ⟨hr, -⟩, ⟨hs, -⟩⟩ := h
  omega

/-- A number outside the halves of surrogate pairs is that of a character. -/
theorem toNat_ofNat {n : Nat} (h : n < 0xd800 ∨ 0xdfff < n ∧ n < 0x110000) :
    (Char.ofNat n).toNat = n := by
  rw [Char.ofNat, dif_pos h]
  rfl

/-- A character in front of what is written is written too. -/
theorem exists_charsForm_cons {c : Char} {form after chars rest : List Char}
    (hform : CharForm c form)
    (ih : ∀ {chars rest : List Char}, readStringChars after = some (chars, rest) →
      ∃ body, after = body ++ '"' :: rest ∧ CharsForm chars body)
    (h : (readStringChars after).map (fun (cs, after) ↦ (c :: cs, after)) = some (chars, rest)) :
    ∃ body, form ++ after = body ++ '"' :: rest ∧ CharsForm chars body := by
  obtain ⟨⟨cs, rest'⟩, hread, heq⟩ := Option.map_eq_some_iff.1 h
  obtain ⟨rfl, rfl⟩ := Prod.mk.inj heq
  obtain ⟨body, rfl, hbody⟩ := ih hread
  exact ⟨form ++ body, (List.append_assoc ..).symm, .cons hform hbody⟩

/-- What is read of a string is written in the characters that were taken. -/
theorem exists_charsForm_of_readStringChars {cs chars rest : List Char}
    (h : readStringChars cs = some (chars, rest)) :
    ∃ body, cs = body ++ '"' :: rest ∧ CharsForm chars body := by
  fun_induction readStringChars cs generalizing chars rest with
  | case2 after =>
    obtain ⟨rfl, rfl⟩ := Prod.mk.inj (Option.some.inj h)
    exact ⟨[], rfl, .nil⟩
  | case4 a b c d after unit hunit hsingle ih =>
    -- the number is that of a character of sixteen bits
    have hdigits := hexForm_of_hexUnit? hunit
    have hlt := hdigits.lt
    refine exists_charsForm_cons (@CharForm.number _ [a, b, c, d] ?_) ih h
    rwa [toNat_ofNat (hsingle.imp id fun h ↦ ⟨h, by omega⟩)]
  | case7 a b c d high hhigh hpair hle e f g i after low hlow hrange ih =>
    -- the halves are in their ranges, and together they are the number of a character
    have hhigh := hexForm_of_hexUnit? hhigh
    have hlow := hexForm_of_hexUnit? hlow
    refine exists_charsForm_cons (.pair hhigh hlow ?_ ?_ hrange.1 hrange.2 (toNat_ofNat ?_)) ih h
    all_goals omega
  | case11 letter after _ c hescape ih =>
    exact exists_charsForm_cons (.letter (letterForm_of_simpleEscape? hescape)) ih h
  | case13 c after hquote _ _ hplain ih =>
    obtain ⟨hcontrol, hbackslash⟩ := not_or.1 hplain
    exact exists_charsForm_cons (.plain (Nat.not_lt.1 hcontrol) hquote hbackslash) ih h
  -- in all other cases nothing is read
  | _ => cases h

theorem exists_stringForm_of_readString {cs rest : List Char} {s : String}
    (h : readString cs = some (s, rest)) :
    ∃ text, '"' :: cs = text ++ rest ∧ StringForm s text := by
  obtain ⟨⟨chars, rest'⟩, hread, heq⟩ := Option.map_eq_some_iff.1 h
  obtain ⟨rfl, rfl⟩ := Prod.mk.inj heq
  obtain ⟨body, rfl, hbody⟩ := exists_charsForm_of_readStringChars hread
  refine ⟨'"' :: body ++ ['"'], by simp, .mk ?_⟩
  rwa [String.toList_ofList]

/-! ### Numbers -/

theorem eq_append_of_span_isDigit {cs digits rest : List Char}
    (h : cs.span Char.isDigit = (digits, rest)) :
    cs = digits ++ rest ∧ (digits.isEmpty = false → IsDigits digits) := by
  rw [List.span_eq_takeWhile_dropWhile] at h
  obtain ⟨rfl, rfl⟩ := Prod.mk.inj h
  refine ⟨(List.takeWhile_append_dropWhile ..).symm, fun hne ↦ ⟨by simpa using hne, fun c hc ↦ ?_⟩⟩
  simpa [Char.isDigit, Char.le_def] using List.mem_takeWhile_imp hc

theorem exists_fractionForm {cs fraction rest : List Char}
    (h : readFractionDigits cs = some (fraction, rest)) :
    ∃ text, cs = text ++ rest ∧ FractionForm fraction text := by
  unfold readFractionDigits at h
  split at h
  · rename_i cs
    cases hspan : cs.span Char.isDigit with
    | mk digits behind =>
      obtain ⟨rfl, hdigits⟩ := eq_append_of_span_isDigit hspan
      rw [hspan] at h
      dsimp only at h
      split_ifs at h with hempty
      obtain ⟨rfl, rfl⟩ := Prod.mk.inj (Option.some.inj h)
      exact ⟨'.' :: digits, rfl, .some (hdigits (Bool.eq_false_iff.2 hempty))⟩
  · obtain ⟨rfl, rfl⟩ := Prod.mk.inj (Option.some.inj h)
    exact ⟨[], rfl, .none⟩

/-- Behind a sign, if there is one, digits are written for a number. -/
theorem exists_isWritten_of_splitSign {cs digits rest : List Char} {negative : Bool}
    (h : splitSign cs = (negative, digits ++ rest)) (hdigits : IsDigits digits) :
    ∃ text, cs = text ++ rest ∧ IsWritten text (signed negative (digitsValue digits)) := by
  rw [digitsValue_eq_numberOf]
  unfold splitSign at h
  split at h <;> obtain ⟨rfl, rfl⟩ := Prod.mk.inj h
  · exact ⟨'-' :: digits, rfl, .minus hdigits⟩
  · exact ⟨'+' :: digits, rfl, .plus hdigits⟩
  · exact ⟨digits, rfl, .plain hdigits⟩

theorem exists_exponentForm {cs rest : List Char} {exponent : Option Int}
    (h : readExponent cs = some (exponent, rest)) :
    ∃ text, cs = text ++ rest ∧ ExponentForm exponent text := by
  unfold readExponent at h
  split at h
  · obtain ⟨rfl, rfl⟩ := Prod.mk.inj (Option.some.inj h)
    exact ⟨[], rfl, .none⟩
  · rename_i c cs
    split_ifs at h with hmark
    · cases hsign : splitSign cs with
      | mk negative unsigned =>
        cases hspan : unsigned.span Char.isDigit with
        | mk digits behind =>
          obtain ⟨rfl, hdigits⟩ := eq_append_of_span_isDigit hspan
          rw [hsign] at h
          dsimp only at h
          rw [hspan] at h
          dsimp only at h
          split_ifs at h with hempty
          obtain ⟨rfl, rfl⟩ := Prod.mk.inj (Option.some.inj h)
          obtain ⟨text, rfl, hwritten⟩ :=
            exists_isWritten_of_splitSign hsign (hdigits (Bool.eq_false_iff.2 hempty))
          exact ⟨c :: text, rfl, .some hmark hwritten⟩
    · obtain ⟨rfl, rfl⟩ := Prod.mk.inj (Option.some.inj h)
      exact ⟨[], rfl, .none⟩

/-- Reads the text of a number behind its sign. -/
def readUnsigned (negative : Bool) (cs : List Char) : Option (NumberText × List Char) := do
  let (whole, cs) := cs.span Char.isDigit
  if whole.isEmpty ∨ (whole.head? = some '0' ∧ 1 < whole.length) then none
  else
    let (fraction, cs) ← readFractionDigits cs
    let (exponent, cs) ← readExponent cs
    some (⟨negative, whole, fraction, exponent⟩, cs)

theorem exists_readUnsigned (cs : List Char) :
    ∃ negative unsigned, cs = (if negative then ['-'] else []) ++ unsigned ∧
      readNumberText cs = readUnsigned negative unsigned := by
  by_cases hminus : ∃ unsigned, cs = '-' :: unsigned
  · obtain ⟨unsigned, rfl⟩ := hminus
    exact ⟨true, unsigned, rfl, rfl⟩
  · refine ⟨false, cs, rfl, ?_⟩
    rw [readNumberText]
    · rfl
    · exact fun unsigned heq ↦ hminus ⟨unsigned, heq⟩

/-- Digits that are not several with a zero in front. -/
theorem eq_zero_of_head?_eq {digits : List Char}
    (h : ¬ (digits.head? = some '0' ∧ 1 < digits.length)) (hhead : digits.head? = some '0') :
    digits = ['0'] := by
  cases digits with
  | nil => cases hhead
  | cons c digits =>
    obtain rfl := Option.some.inj hhead
    cases digits with
    | nil => rfl
    | cons d digits => exact absurd ⟨hhead, by simp⟩ h

/-- The text of a number is read in its parts, one behind the other. -/
theorem exists_numberTextForm {cs rest : List Char} {t : NumberText}
    (h : readNumberText cs = some (t, rest)) :
    ∃ text, cs = text ++ rest ∧ NumberTextForm t text := by
  obtain ⟨negative, unsigned, rfl, hread⟩ := exists_readUnsigned cs
  rw [hread, readUnsigned] at h
  cases hspan : unsigned.span Char.isDigit with
  | mk whole behind =>
    obtain ⟨rfl, hdigits⟩ := eq_append_of_span_isDigit hspan
    rw [hspan] at h
    dsimp only at h
    split_ifs at h with hplain
    obtain ⟨hempty, hzero⟩ := not_or.1 hplain
    simp only [Option.bind_eq_bind, Option.bind_eq_some_iff] at h
    obtain ⟨⟨fraction, behind'⟩, hfraction, ⟨exponent, behind''⟩, hexponent, h⟩ := h
    obtain ⟨rfl, rfl⟩ := Prod.mk.inj (Option.some.inj h)
    obtain ⟨fractionText, rfl, hfractionForm⟩ := exists_fractionForm hfraction
    obtain ⟨exponentText, rfl, hexponentForm⟩ := exists_exponentForm hexponent
    have hwhole : IsPlainDigits whole :=
      ⟨hdigits (Bool.eq_false_iff.2 hempty), eq_zero_of_head?_eq hzero⟩
    exact ⟨_, by simp, .mk hwhole hfractionForm hexponentForm⟩

/-- Digits are dropped where the number has more than sixty-four bits, so none is dropped from a
smaller one. -/
theorem foldl_lt_of_absorbDigits {digits : List Char} {n : Nat} (hn : n < 2 ^ 64)
    (h : (absorbDigits n digits).2 = digits.length) :
    digits.foldl (fun n c ↦ 10 * n + (c.toNat - 48)) n < 2 ^ 64 := by
  induction digits generalizing n with
  | nil => exact hn
  | cons c cs ih =>
    rw [absorbDigits] at h
    split_ifs at h with hlt
    · exact ih hlt (Nat.succ.inj h)

theorem numberOf_lt_of_absorbDigits {digits : List Char}
    (h : (absorbDigits 0 digits).2 = digits.length) : numberOf digits < 2 ^ 64 := by
  rw [← digitsValue_eq_numberOf]
  exact foldl_lt_of_absorbDigits (by decide) h

/-- An integer is written without a fraction and an exponent. -/
theorem NumberText.value?_eq_int {t : NumberText} {n : Int} (h : t.value? = some (.int n)) :
    t.fraction = [] ∧ t.exponent = none ∧ numberOf t.whole < 2 ^ 64 ∧
      (t.negative = false ∨ 0 < numberOf t.whole ∧ numberOf t.whole ≤ 2 ^ 63) ∧
      n = signed t.negative (numberOf t.whole) := by
  rw [NumberText.value?] at h
  dsimp only at h
  split_ifs at h with hint
  · obtain ⟨hfraction, hexponent, hcount, hsign⟩ := hint
    have hlt := numberOf_lt_of_absorbDigits hcount
    rw [absorbDigits_zero hlt] at hsign h
    cases h
    exact ⟨List.isEmpty_iff.1 hfraction, hexponent, hlt, hsign, rfl⟩
  · obtain ⟨magnitude, -, heq⟩ := Option.map_eq_some_iff.1 h
    cases heq

/-- A text of a number is written for its value. -/
theorem NumberTextForm.numberForm {t : NumberText} {n : Number} {text : List Char}
    (h : NumberTextForm t text) (hvalue : t.value? = some n) : NumberForm n text := by
  cases n with
  | double negative magnitude => exact .double h hvalue
  | int n =>
    obtain ⟨hnone, hnone', hlt, hsign, rfl⟩ := t.value?_eq_int hvalue
    cases h with
    | @mk negative whole _ _ _ _ hwhole hfraction hexponent =>
      obtain rfl := hnone
      obtain rfl := hnone'
      cases hfraction with
      | some hdigits => exact absurd rfl hdigits.1
      | none =>
        cases hexponent with
        | none =>
          cases negative with
          | false => simpa [signed] using NumberForm.natural hwhole hlt
          | true =>
            obtain ⟨hpos, hle⟩ := hsign.resolve_left (by simp)
            simpa [signed] using NumberForm.negative hwhole hpos hle

theorem exists_numberForm {cs rest : List Char} {n : Number}
    (h : readNumber cs = some (n, rest)) :
    ∃ text, cs = text ++ rest ∧ NumberForm n text := by
  simp only [readNumber, Option.bind_eq_bind, Option.bind_eq_some_iff, Option.some.injEq,
    Prod.mk.injEq] at h
  obtain ⟨⟨t, rest⟩, htext, n, hvalue, rfl, rfl⟩ := h
  obtain ⟨text, rfl, hform⟩ := exists_numberTextForm htext
  exact ⟨text, rfl, hform.numberForm hvalue⟩

/-! ### Values -/

theorem eq_append_of_readName {name : String} {value value' : Json} {cs rest : List Char}
    (h : readName name value cs = some (value', rest)) :
    cs = name.toList ++ rest ∧ value' = value := by
  rw [readName] at h
  split_ifs at h with hname
  obtain ⟨rfl, rfl⟩ := Prod.mk.inj (Option.some.inj h)
  obtain ⟨after, rfl⟩ := List.isPrefixOf_iff_prefix.1 hname
  exact ⟨by rw [← String.length_toList, List.drop_left], rfl⟩

theorem exists_scalarForm {cs rest : List Char} {value : Json}
    (h : readScalar cs = some (value, rest)) :
    ∃ text, cs = text ++ rest ∧ ScalarForm value text := by
  unfold readScalar at h
  split at h
  · obtain ⟨⟨s, after⟩, hread, heq⟩ := Option.map_eq_some_iff.1 h
    obtain ⟨rfl, rfl⟩ := Prod.mk.inj heq
    obtain ⟨text, heq, hform⟩ := exists_stringForm_of_readString hread
    exact ⟨text, heq, .string hform⟩
  · obtain ⟨heq, rfl⟩ := eq_append_of_readName h
    exact ⟨_, heq, .null⟩
  · obtain ⟨heq, rfl⟩ := eq_append_of_readName h
    exact ⟨_, heq, .truth⟩
  · obtain ⟨heq, rfl⟩ := eq_append_of_readName h
    exact ⟨_, heq, .untruth⟩
  · obtain ⟨⟨n, after⟩, hread, heq⟩ := Option.map_eq_some_iff.1 h
    obtain ⟨rfl, rfl⟩ := Prod.mk.inj heq
    obtain ⟨text, rfl, hform⟩ := exists_numberForm hread
    exact ⟨text, rfl, .number hform⟩

theorem exists_blanks (cs : List Char) :
    ∃ blanks, IsBlanks blanks ∧ cs = blanks ++ skipBlanks cs :=
  ⟨cs.takeWhile isJsonBlank, fun _ hc ↦ isJsonBlank_iff.1 (List.mem_takeWhile_imp hc),
    (List.takeWhile_append_dropWhile ..).symm⟩

/-- Blanks and a form are what a reader takes from the characters it is given. -/
def Takes {α : Type} (read : List Char → Option (α × List Char))
    (form : α → List Char → Prop) : Prop :=
  ∀ ⦃cs rest : List Char⦄ ⦃a : α⦄, read cs = some (a, rest) →
    ∃ blanks text, IsBlanks blanks ∧ cs = blanks ++ (text ++ rest) ∧ form a text

/-- What is read up to a closing bracket is a series. -/
theorem Takes.exists_seriesForm {α : Type} {read : List Char → Option (α × List Char)}
    {form : α → List Char → Prop} (h : Takes read form) {close : Char} {fuel : Nat}
    {cs rest : List Char} {items : List α}
    (hread : readSeries read close fuel cs = some (items, rest)) :
    ∃ blanks text, IsBlanks blanks ∧ cs = blanks ++ (text ++ close :: rest) ∧
      SeriesForm form items text := by
  induction fuel generalizing cs items rest with
  | zero => cases hread
  | succ fuel ih =>
    rw [readSeries, Option.bind_eq_bind, Option.bind_eq_some_iff] at hread
    obtain ⟨⟨a, behind⟩, hfirst, hread⟩ := hread
    obtain ⟨blanks, text, hblanks, rfl, hform⟩ := h hfirst
    obtain ⟨blanks', hblanks', hbehind⟩ := exists_blanks behind
    dsimp only at hread
    split at hread
    · cases hread
    · rename_i c after hskip
      rw [hskip] at hbehind
      split_ifs at hread with hclose hcomma
      · obtain ⟨rfl, rfl⟩ := Prod.mk.inj (Option.some.inj hread)
        obtain rfl := hclose
        exact ⟨blanks, _, hblanks, by rw [hbehind, List.append_assoc], .last hform hblanks'⟩
      · -- behind the comma there is a shorter series
        rw [Option.bind_eq_bind, Option.bind_eq_some_iff] at hread
        obtain ⟨⟨items', behind'⟩, hrest, hread⟩ := hread
        obtain ⟨rfl, rfl⟩ := Prod.mk.inj (Option.some.inj hread)
        obtain ⟨before, text', hbefore, hafter, hseries⟩ := ih hrest
        refine ⟨blanks, _, hblanks, ?_, .cons hform hblanks' hbefore hseries⟩
        rw [hbehind, hafter, hcomma]
        simp

theorem exists_key {cs rest : List Char} {key : String} (h : readKey cs = some (key, rest)) :
    ∃ blanks text blanks', IsBlanks blanks ∧ IsBlanks blanks' ∧
      cs = blanks ++ (text ++ (blanks' ++ ':' :: rest)) ∧ StringForm key text := by
  obtain ⟨blanks, hblanks, hcs⟩ := exists_blanks cs
  unfold readKey at h
  split at h
  · rename_i after hquote
    rw [Option.bind_eq_bind, Option.bind_eq_some_iff] at h
    obtain ⟨⟨s, behind⟩, hread, h⟩ := h
    obtain ⟨text, htext, hform⟩ := exists_stringForm_of_readString hread
    obtain ⟨blanks', hblanks', hbehind⟩ := exists_blanks behind
    dsimp only at h
    split at h
    · rename_i after' hcolon
      obtain ⟨rfl, rfl⟩ := Prod.mk.inj (Option.some.inj h)
      refine ⟨blanks, text, blanks', hblanks, hblanks', ?_, hform⟩
      rw [hcs, hquote, htext, hbehind, hcolon]
    · cases h
  · cases h

theorem Takes.member {read : List Char → Option (Json × List Char)}
    {form : Json → List Char → Prop} (h : Takes read form) :
    Takes (readMember read) (MemberForm form) := by
  intro cs rest member hread
  simp only [readMember, Option.bind_eq_bind, Option.bind_eq_some_iff, Option.some.injEq,
    Prod.mk.injEq] at hread
  obtain ⟨⟨key, behind⟩, hkey, ⟨value, behind'⟩, hvalue, rfl, rfl⟩ := hread
  obtain ⟨blanks, text, before, hblanks, hbefore, rfl, hform⟩ := exists_key hkey
  obtain ⟨before', text', hbefore', heq, hform'⟩ := h hvalue
  dsimp only at heq
  subst heq
  exact ⟨blanks, _, hblanks, by simp, .mk hform hbefore hbefore' hform'⟩

/-- Behind an opening bracket, everything up to the closing one is taken. -/
theorem Takes.exists_bodyForm {α : Type} {read : List Char → Option (α × List Char)}
    {form : α → List Char → Prop} (h : Takes read form) {close : Char} (fuel : Nat)
    {cs rest : List Char} {items : List α}
    (hread : skipBlanks cs = close :: rest ∧ items = [] ∨
      readSeries read close fuel (skipBlanks cs) = some (items, rest)) :
    ∃ body, cs = body ++ close :: rest ∧ BodyForm form items body := by
  obtain ⟨blanks, hblanks, hcs⟩ := exists_blanks cs
  rcases hread with ⟨hclose, rfl⟩ | hread
  · exact ⟨blanks, by rw [hcs, hclose], .empty hblanks⟩
  · obtain ⟨blanks', text, hblanks', heq, hseries⟩ := h.exists_seriesForm hread
    have hboth : IsBlanks (blanks ++ blanks') := fun c hc ↦
      (List.mem_append.1 hc).elim (hblanks c) (hblanks' c)
    exact ⟨(blanks ++ blanks') ++ text, by rw [hcs, heq]; simp, .series hboth hseries⟩

section Containers

variable {read : List Char → Option (Json × List Char)} {form : Json → List Char → Prop}

theorem Takes.exists_items (h : Takes read form) {cs rest : List Char} {items : List Json}
    (hread : readArrayRest read cs = some (items, rest)) :
    ∃ body, cs = body ++ ']' :: rest ∧ BodyForm form items body := by
  refine h.exists_bodyForm (skipBlanks cs).length ?_
  unfold readArrayRest at hread
  split at hread
  · rename_i hclose
    obtain ⟨rfl, rfl⟩ := Prod.mk.inj (Option.some.inj hread)
    exact Or.inl ⟨hclose, rfl⟩
  · exact Or.inr ((readItems_eq_readSeries read _ _).symm.trans hread)

theorem Takes.exists_members (h : Takes read form) {cs rest : List Char} {members : Members}
    (hread : readObjectRest read cs = some (members, rest)) :
    ∃ body, cs = body ++ '\x7d' :: rest ∧ BodyForm (MemberForm form) members body := by
  refine h.member.exists_bodyForm (skipBlanks cs).length ?_
  unfold readObjectRest at hread
  split at hread
  · rename_i hclose
    obtain ⟨rfl, rfl⟩ := Prod.mk.inj (Option.some.inj hread)
    exact Or.inl ⟨hclose, rfl⟩
  · exact Or.inr ((readMembers_eq_readSeries read _ _).symm.trans hread)

end Containers

/-- The reader of values takes the values of its level. -/
theorem takes_valueForm (depth : Nat) : Takes (readValue depth) (ValueForm depth) := by
  induction depth with
  | zero =>
    intro cs rest value hread
    obtain ⟨blanks, hblanks, hcs⟩ := exists_blanks cs
    obtain ⟨text, heq, hform⟩ := exists_scalarForm hread
    exact ⟨blanks, text, hblanks, heq ▸ hcs, hform⟩
  | succ depth ih =>
    intro cs rest value hread
    obtain ⟨blanks, hblanks, hcs⟩ := exists_blanks cs
    unfold readValue at hread
    split at hread
    · rename_i after hopen
      obtain ⟨⟨items, behind⟩, hitems, heq⟩ := Option.map_eq_some_iff.1 hread
      obtain ⟨rfl, rfl⟩ := Prod.mk.inj heq
      obtain ⟨body, rfl, hbody⟩ := ih.exists_items hitems
      exact ⟨blanks, _, hblanks, by rw [hcs, hopen]; simp, .array hbody⟩
    · rename_i after hopen
      obtain ⟨⟨members, behind⟩, hmembers, heq⟩ := Option.map_eq_some_iff.1 hread
      obtain ⟨rfl, rfl⟩ := Prod.mk.inj heq
      obtain ⟨body, rfl, hbody⟩ := ih.exists_members hmembers
      exact ⟨blanks, _, hblanks, by rw [hcs, hopen]; simp, .object hbody⟩
    · obtain ⟨text, heq, hform⟩ := exists_scalarForm hread
      exact ⟨blanks, text, hblanks, heq ▸ hcs, .scalar hform⟩

/-! ### Texts -/

/-- **What is read of a text is what it is written for**, and other texts are refused. -/
theorem ofText?_eq_some_iff {value : Json} {text : String} :
    ofText? text = some value ↔ TextForm value text := by
  refine ⟨fun h ↦ ?_, ofText?_eq_some⟩
  rw [ofText?, Option.bind_eq_bind, Option.bind_eq_some_iff] at h
  obtain ⟨⟨value', rest⟩, hread, h⟩ := h
  dsimp only at h
  split_ifs at h with hend
  obtain rfl := Option.some.inj h
  obtain ⟨blanks, cs, hblanks, heq, hform⟩ := takes_valueForm maxOpen hread
  obtain ⟨behind, hbehind, hrest⟩ := exists_blanks rest
  rw [List.isEmpty_iff.1 hend, List.append_nil] at hrest
  subst hrest
  have htext : text = String.ofList (blanks ++ cs ++ rest) := by
    rw [List.append_assoc, ← heq, String.ofList_toList]
  exact htext ▸ .mk hblanks hform hbehind

/-- Bytes are read as an object where they are a text of that object. -/
theorem membersOfBytes?_eq_some_iff {members : Members} {bytes : Bytes} :
    membersOfBytes? bytes = some members ↔
      ∃ text, bytes = Wire.Textual.toBytes .string text ∧ TextForm (.object members) text := by
  constructor
  · intro h
    obtain ⟨text, htext, h⟩ := Option.bind_eq_some_iff.1 h
    have hread : Wire.Textual.ofBytes? .string bytes = some text := htext
    refine ⟨text, (Wire.Textual.toBytes_of_ofBytes? hread).symm, ofText?_eq_some_iff.1 ?_⟩
    unfold membersOfText? at h
    split at h
    · rename_i hread
      rw [hread, Option.some.inj h]
    · cases h
  · rintro ⟨text, rfl, h⟩
    exact membersOfBytes?_eq_some h

theorem toBytes_ofList (cs : List Char) :
    Wire.Textual.toBytes .string (String.ofList cs) = cs.flatMap String.utf8EncodeChar := by
  show (String.ofList cs).toByteArray.data.toList = _
  rw [String.toByteArray_ofList, List.utf8Encode, List.data_toByteArray]

/-- Bytes that are read as an object begin with a brace, if not with a blank. -/
theorem exists_head_of_membersOfBytes? {members : Members} {bytes : Bytes}
    (h : membersOfBytes? bytes = some members) :
    ∃ b rest, bytes = b :: rest ∧ b ∈ [0x20, 0x09, 0x0d, 0x0a, 0x7b] := by
  obtain ⟨text, rfl, htext⟩ := membersOfBytes?_eq_some_iff.1 h
  cases htext with
  | @mk blanks cs blanks' hblanks hvalue hblanks' =>
    obtain ⟨body, rfl⟩ : ∃ body, cs = '\x7b' :: body := by
      cases hvalue with
      | scalar hscalar => cases hscalar
      | object _ => exact ⟨_, rfl⟩
    obtain ⟨c, rest, heq, hc⟩ : ∃ c rest, blanks ++ '\x7b' :: body ++ blanks' = c :: rest ∧
        c ∈ [' ', '\t', '\r', '\n', '\x7b'] := by
      cases blanks with
      | nil => exact ⟨'\x7b', _, rfl, by simp⟩
      | cons c blanks =>
        refine ⟨c, _, rfl, ?_⟩
        rcases hblanks c List.mem_cons_self with rfl | rfl | rfl | rfl <;> simp
    rw [heq, toBytes_ofList, List.flatMap_cons]
    have hall : ∀ c ∈ [' ', '\t', '\r', '\n', '\x7b'],
        ∃ b, String.utf8EncodeChar c = [b] ∧ b ∈ [0x20, 0x09, 0x0d, 0x0a, 0x7b] := by
      simp [String.utf8EncodeChar]
    obtain ⟨b, hb, hmem⟩ := hall c hc
    exact ⟨b, rest.flatMap String.utf8EncodeChar, by rw [hb]; rfl, hmem⟩

/-! ### Objects of strings -/

/-- The strings in an object that holds nothing else, with their keys. -/
def stringsOf? : Json → Option (List (String × String))
  | .object members =>
    members.mapM fun (key, value) ↦
      match value with
      | .string text => some (key, text)
      | _ => none
  | _ => none

/-- An object of strings is known by them. -/
theorem eq_of_stringsOf? {value : Json} {strings : List (String × String)}
    (h : value.stringsOf? = some strings) :
    value = .object (strings.map fun (key, text) ↦ (key, .string text)) := by
  cases value with
  | object members =>
    rw [stringsOf?] at h
    congr 1
    induction members generalizing strings with
    | nil =>
      obtain rfl := Option.some.inj h
      rfl
    | cons member members ih =>
      obtain ⟨key, value⟩ := member
      rw [List.mapM_cons] at h
      obtain ⟨pair, hpair, h⟩ := Option.bind_eq_some_iff.1 h
      obtain ⟨rest, hrest, h⟩ := Option.bind_eq_some_iff.1 h
      obtain rfl := Option.some.inj h
      cases value with
      | string text =>
        obtain rfl := Option.some.inj hpair
        rw [List.map_cons, ← ih hrest]
      | _ => cases hpair
  | _ => cases h

/-- A text in which strings are read is that of an object of these strings. -/
theorem textForm_of_stringsOf? {text : String} {strings : List (String × String)}
    (h : (ofText? text).bind stringsOf? = some strings) :
    TextForm (.object (strings.map fun (key, text) ↦ (key, .string text))) text := by
  obtain ⟨value, hread, hstrings⟩ := Option.bind_eq_some_iff.1 h
  exact eq_of_stringsOf? hstrings ▸ ofText?_eq_some_iff.1 hread

end ChainRecord.Json
