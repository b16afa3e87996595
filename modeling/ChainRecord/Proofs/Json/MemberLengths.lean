import ChainRecord.Attributes
import ChainRecord.Proofs.Base64
import ChainRecord.Proofs.Json.Doubles
import ChainRecord.Proofs.Json.Exactness

/-!
# Lengths of members

A member of an object takes at least as many bytes of the text of the object as there are in a byte
string that is read from it in base 64 (`length_le_of_membersOfBytes?`). An escape is no shorter
than its character, and an integer is written in no more digits than it was read from. A double may
be written longer than it was read from, but then it has a point or a minus, which are not in base
64, or it is short. Arrays and objects are not in base 64 either.
-/

namespace ChainRecord.Json

open Numeral

/-! ### Strings and numbers -/

theorem CharForm.length_pos {c : Char} {form : List Char} (h : CharForm c form) :
    0 < form.length := by
  cases h <;> simp

/-- An escape is no shorter than its character. -/
theorem CharsForm.length_le {cs text : List Char} (h : CharsForm cs text) :
    cs.length ≤ text.length := by
  induction h with
  | nil => exact Nat.le_refl 0
  | cons hchar _ ih =>
    have hpos := hchar.length_pos
    rw [List.length_cons, List.length_append]
    omega

theorem StringForm.length_add_two_le {s : String} {cs : List Char} (h : StringForm s cs) :
    s.toList.length + 2 ≤ cs.length := by
  obtain ⟨hchars⟩ := h
  have hlength := hchars.length_le
  simp only [List.length_append, List.length_cons, List.length_nil]
  omega

theorem hasDigits_numberOf {digits : List Char} (h : IsDigits digits) :
    Binary64.HasDigits digits.length (numberOf digits) := by
  have hall : ∀ n ∈ digits.reverse.map fun c ↦ c.toNat - '0'.toNat, n < 10 := by
    intro n hn
    obtain ⟨c, hc, rfl⟩ := List.mem_map.1 hn
    obtain ⟨-, hle⟩ := h.2 c (List.mem_reverse.1 hc)
    have hnine : c.toNat ≤ 57 := hle
    show c.toNat - 48 < 10
    omega
  have hlt := Nat.ofDigits_lt_base_pow_length (by decide) hall
  rwa [List.length_map, List.length_reverse] at hlt

/-- An integer that is not negative is written in no more digits than it was read from. -/
theorem length_toString_numberOf_le {digits : List Char} (h : IsDigits digits) :
    (toString (numberOf digits : ℤ)).toList.length ≤ digits.length := by
  have htext : (toString (numberOf digits : ℤ)).toList = Nat.toDigits 10 (numberOf digits) := by
    simp [Int.toString_eq_repr, Int.repr, Nat.repr]
  rw [htext]
  exact (hasDigits_numberOf h).length_toDigits_le (List.length_pos_iff.2 h.1)

theorem minus_mem_toString_neg {n : ℕ} (h : 0 < n) : '-' ∈ (toString (-n : ℤ)).toList := by
  obtain ⟨m, rfl⟩ := Nat.exists_eq_succ_of_ne_zero h.ne'
  have hneg : (-(m.succ : ℕ) : ℤ) = Int.negSucc m := rfl
  rw [hneg, Int.toString_eq_repr]
  show '-' ∈ ("-" ++ (m + 1).repr).toList
  simp

/-! ### Values in base 64 -/

/-- Some characters are not in base 64. -/
theorem not_mem_of_decode? {text : String} {bytes : Bytes} (h : Base64.decode? text = some bytes)
    {c : Char} (hc : c ∈ ['.', '-', '[', '{']) : c ∉ text.toList := by
  have hnone : ∀ c ∈ ['.', '-', '[', '\x7b'], c ≠ '=' ∧ Base64.value? c = none := by
    simp [Base64.value?]
  obtain ⟨hpadding, hvalue⟩ := hnone c hc
  intro hmem
  have hsymbol := (Base64.ofSymbols?_eq_some h).2 c hmem
  rw [hvalue] at hsymbol
  exact hsymbol.elim hpadding (by simp)

theorem length_le_of_decode? {text : String} {bytes : Bytes}
    (h : Base64.decode? text = some bytes) : bytes.length ≤ text.toList.length := by
  have hlength := (Base64.ofSymbols?_eq_some h).1
  omega

theorem NumberText.inRange_of_value? {t : NumberText} {negative : Bool} {magnitude : Binary64}
    (h : t.value? = some (.double negative magnitude)) : magnitude.InRange := by
  rw [value?] at h
  dsimp only at h
  split_ifs at h
  · cases h
  · obtain ⟨x, hx, heq⟩ := Option.map_eq_some_iff.1 h
    cases heq
    exact Binary64.inRange_of_ofParts? hx

/-- What a number is written with in base 64 is not much longer than the number. -/
theorem NumberForm.length_le_of_decode? {n : Number} {cs : List Char} (h : NumberForm n cs)
    {bytes : Bytes} (hbytes : Base64.decode? n.text = some bytes) :
    bytes.length ≤ cs.length + 5 := by
  cases h with
  | @natural digits hdigits _ =>
    have htext := length_toString_numberOf_le hdigits.1
    have hlength := Json.length_le_of_decode? hbytes
    exact hlength.trans (htext.trans (Nat.le_add_right _ 5))
  | negative _ hpos _ =>
    exact absurd (minus_mem_toString_neg hpos) (not_mem_of_decode? hbytes (by simp))
  | @double t negative magnitude cs _ hvalue =>
    have hpoint := not_mem_of_decode? hbytes (c := '.') (by simp)
    have hminus := not_mem_of_decode? hbytes (c := '-') (by simp)
    have hlength := (Base64.ofSymbols?_eq_some hbytes).1
    rw [Number.text, String.toList_ofList] at hpoint hminus hlength
    cases negative with
    | true => exact absurd List.mem_cons_self hminus
    | false =>
      have hshort :=
        length_magnitudeText_le (NumberText.inRange_of_value? hvalue) hpoint hminus
      rw [if_neg Bool.false_ne_true] at hlength
      omega

theorem ScalarForm.length_le_of_decode? {members : Members} {key : String} {value : Json}
    {cs : List Char} (h : ScalarForm value cs) (hlookup : lookup? members key = some value)
    {bytes : Bytes} (hbytes : Base64.decode? (Attributes.text members key) = some bytes) :
    bytes.length ≤ cs.length + 5 := by
  have hlength := Json.length_le_of_decode? hbytes
  rw [Attributes.text, hlookup] at hbytes hlength
  cases h with
  | null => exact hlength.trans (Nat.zero_le _)
  | truth | untruth => exact hlength.trans (by decide)
  | number hnumber => exact hnumber.length_le_of_decode? hbytes
  | string hstring =>
    have hchars := hstring.length_add_two_le
    dsimp only at hlength
    omega

/-- What is read from a member in base 64 is not much longer than its value. -/
theorem ValueForm.length_le_of_decode? {depth : ℕ} {members : Members} {key : String}
    {value : Json} {cs : List Char} (h : ValueForm depth value cs)
    (hlookup : lookup? members key = some value) {bytes : Bytes}
    (hbytes : Base64.decode? (Attributes.text members key) = some bytes) :
    bytes.length ≤ cs.length + 5 := by
  cases depth with
  | zero => exact ScalarForm.length_le_of_decode? h hlookup hbytes
  | succ depth =>
    cases h with
    | scalar hscalar => exact hscalar.length_le_of_decode? hlookup hbytes
    | array _ =>
      rw [Attributes.text, hlookup] at hbytes
      exact absurd (by simp [text]) (not_mem_of_decode? hbytes (c := '[') (by simp))
    | object _ =>
      rw [Attributes.text, hlookup] at hbytes
      exact absurd (by simp [text]) (not_mem_of_decode? hbytes (c := '\x7b') (by simp))

/-! ### Members of objects -/

section Series

variable {α : Type} {form : α → List Char → Prop} {items : List α} {text : List Char}

theorem SeriesForm.exists_form (h : SeriesForm form items text) {a : α} (ha : a ∈ items) :
    ∃ cs, form a cs ∧ cs.length ≤ text.length := by
  induction h with
  | last hform _ =>
    obtain rfl := List.mem_singleton.1 ha
    exact ⟨_, hform, by simp⟩
  | cons hform _ _ _ ih =>
    rcases List.mem_cons.1 ha with rfl | hrest
    · exact ⟨_, hform, by simp only [List.length_append]; omega⟩
    · obtain ⟨cs, hcs, hlength⟩ := ih hrest
      exact ⟨cs, hcs, by simp only [List.length_append]; omega⟩

theorem BodyForm.exists_form (h : BodyForm form items text) {a : α} (ha : a ∈ items) :
    ∃ cs, form a cs ∧ cs.length ≤ text.length := by
  cases h with
  | empty _ => exact absurd ha List.not_mem_nil
  | series _ hseries =>
    obtain ⟨cs, hcs, hlength⟩ := hseries.exists_form ha
    exact ⟨cs, hcs, by simp only [List.length_append]; omega⟩

end Series

/-- The value of a member is written in the text of the object, which has two braces, two quotes
and a colon beside. -/
theorem TextForm.exists_valueForm {members : Members} {text : String}
    (h : TextForm (.object members) text) {member : String × Json} (hmember : member ∈ members) :
    ∃ depth cs, ValueForm depth member.2 cs ∧ cs.length + 5 ≤ text.toList.length := by
  generalize hvalue : Json.object members = value at h
  obtain ⟨-, hform, -⟩ := h
  subst hvalue
  cases hform with
  | scalar hscalar => cases hscalar
  | object hbody =>
    obtain ⟨memberText, hmember, hlength⟩ := hbody.exists_form hmember
    obtain ⟨hkey, -, -, hform⟩ := hmember
    have hquotes := hkey.length_add_two_le
    refine ⟨_, _, hform, ?_⟩
    simp only [String.toList_ofList, List.length_append, List.length_cons, List.length_nil]
      at hlength ⊢
    omega

theorem length_le_flatMap_utf8EncodeChar (cs : List Char) :
    cs.length ≤ (cs.flatMap String.utf8EncodeChar).length := by
  induction cs with
  | nil => exact Nat.le_refl 0
  | cons c cs ih =>
    have hpos := c.utf8Size_pos
    rw [List.flatMap_cons, List.length_append, String.length_utf8EncodeChar, List.length_cons]
    omega

/-- **A byte string in a member is no longer than the object.** -/
theorem length_le_of_membersOfBytes? {payload bytes : Bytes} {members : Members} {key : String}
    (h : membersOfBytes? payload = some members)
    (hbytes : Base64.decode? (Attributes.text members key) = some bytes) :
    bytes.length ≤ payload.length := by
  obtain ⟨text, rfl, htext⟩ := membersOfBytes?_eq_some_iff.1 h
  have hchars := length_le_flatMap_utf8EncodeChar text.toList
  rw [← toBytes_ofList, String.ofList_toList] at hchars
  cases hlookup : lookup? members key with
  | none =>
    have hlength := Json.length_le_of_decode? hbytes
    rw [Attributes.text, hlookup] at hlength
    exact hlength.trans (Nat.zero_le _)
  | some value =>
    obtain ⟨member, hmember, rfl⟩ := Option.map_eq_some_iff.1 hlookup
    obtain ⟨depth, cs, hform, hlength⟩ :=
      htext.exists_valueForm (List.mem_reverse.1 (List.mem_of_find?_eq_some hmember))
    have hvalue := ValueForm.length_le_of_decode? hform hlookup hbytes
    omega

end ChainRecord.Json
