import ChainRecord.Attributes
import ChainRecord.Proofs.Json.Tokens
import ChainRecord.Proofs.Wire.RoundTrip

/-!
# Reading JSON texts

Every text of the grammar is read, as the value it is written for (`ofText?_eq_some`), and so it is
written for one value (`TextForm.unique`).

Arrays and objects are both a series between brackets, and their readers are brought to one
(`readSeries`). It reads every series if its reader of single things does (`Reads`), and it is never
stopped by its bound, the number of characters, since each comma is one. So a reader for one level
of nesting gives one for the next level (`Reads.level`), and the induction is on the level.
-/

namespace ChainRecord.Json

/-! ### Series -/

/-- Reads things, the first of which is due, up to a closing bracket. -/
def readSeries {α : Type} (read : List Char → Option (α × List Char)) (close : Char) :
    Nat → List Char → Option (List α × List Char)
  | 0, _ => none
  | fuel + 1, cs => do
    let (a, cs) ← read cs
    match skipBlanks cs with
    | [] => none
    | c :: rest =>
      if c = close then some ([a], rest)
      else if c = ',' then
        let (items, rest) ← readSeries read close fuel rest
        some (a :: items, rest)
      else none

/-- Reads a member of an object. -/
def readMember (read : List Char → Option (Json × List Char)) (cs : List Char) :
    Option ((String × Json) × List Char) := do
  let (key, cs) ← readKey cs
  let (value, cs) ← read cs
  some ((key, value), cs)

section Readers

variable (read : List Char → Option (Json × List Char))

theorem readItems_eq_readSeries (fuel : Nat) (cs : List Char) :
    readItems read fuel cs = readSeries read ']' fuel cs := by
  induction fuel generalizing cs with
  | zero => rfl
  | succ fuel ih =>
    rw [readItems, readSeries]
    refine Option.bind_congr fun (item, cs) _ ↦ ?_
    dsimp only
    cases skipBlanks cs with
    | nil => rfl
    | cons c rest =>
      by_cases hclose : c = ']'
      · rw [hclose]
        rfl
      · by_cases hcomma : c = ','
        · simp [hcomma, ih]
        · simp [hclose, hcomma]

theorem readMembers_eq_readSeries (fuel : Nat) (cs : List Char) :
    readMembers read fuel cs = readSeries (readMember read) '\x7d' fuel cs := by
  induction fuel generalizing cs with
  | zero => rfl
  | succ fuel ih =>
    rw [readMembers, readSeries, readMember]
    cases readKey cs with
    | none => rfl
    | some keyed =>
      obtain ⟨key, cs⟩ := keyed
      simp only [Option.bind_eq_bind, Option.bind_some]
      cases read cs with
      | none => rfl
      | some valued =>
        obtain ⟨value, cs⟩ := valued
        simp only [Option.bind_some]
        cases skipBlanks cs with
        | nil => rfl
        | cons c rest =>
          by_cases hclose : c = '\x7d'
          · rw [hclose]
            rfl
          · by_cases hcomma : c = ','
            · simp [hcomma, ih]
            · simp [hclose, hcomma]

end Readers

/-- A text begins neither with a blank nor with a closing bracket, so a reader that looks for the
end of a container finds something else. -/
def BeginsThing (cs : List Char) : Prop :=
  ∃ c rest, cs = c :: rest ∧ isJsonBlank c = false ∧ c ≠ ']' ∧ c ≠ '\x7d'

/-- A reader reads a form behind blanks and in front of any rest that cannot continue it. -/
structure Reads {α : Type} (read : List Char → Option (α × List Char))
    (form : α → List Char → Prop) : Prop where
  read_eq_some {a : α} {blanks cs rest : List Char} : IsBlanks blanks → form a cs →
    Delimits rest → read (blanks ++ (cs ++ rest)) = some (a, rest)
  begins {a : α} {cs : List Char} : form a cs → BeginsThing cs

/-- Every thing in front of another one takes a character at least. -/
theorem SeriesForm.length_le {α : Type} {form : α → List Char → Prop} {items : List α}
    {text : List Char} (h : SeriesForm form items text) : items.length ≤ text.length + 1 := by
  induction h with
  | last _ _ => simp
  | cons _ _ _ _ ih =>
    simp only [List.length_cons, List.length_append]
    omega

theorem skipBlanks_append_cons {blanks : List Char} (h : IsBlanks blanks) {c : Char}
    (hc : isJsonBlank c = false) (rest : List Char) :
    skipBlanks (blanks ++ c :: rest) = c :: rest := by
  rw [skipBlanks_append h, skipBlanks_cons hc]

section Series

variable {α : Type} {read : List Char → Option (α × List Char)} {form : α → List Char → Prop}

theorem Reads.begins_series (h : Reads read form) {items : List α} {text : List Char}
    (htext : SeriesForm form items text) : BeginsThing text := by
  cases htext with
  | last hform _ | cons hform _ _ _ =>
    obtain ⟨c, rest, rfl, hc⟩ := h.begins hform
    exact ⟨c, _, rfl, hc⟩

/-- A series is read up to its closing bracket, if the bound is large enough. -/
theorem Reads.readSeries_eq_some (h : Reads read form) {close : Char}
    (hclose : close ∈ [']', '\x7d']) {items : List α} {text : List Char}
    (htext : SeriesForm form items text) {fuel : Nat} (hfuel : items.length ≤ fuel)
    {blanks : List Char} (hblanks : IsBlanks blanks) (rest : List Char) :
    readSeries read close fuel (blanks ++ (text ++ close :: rest)) = some (items, rest) := by
  have hends : isJsonBlank close = false ∧
      close ∈ [' ', '\t', '\n', '\r', ',', ']', '\x7d'] ∧ ',' ≠ close := by
    revert close
    simp [isJsonBlank]
  induction htext generalizing fuel blanks with
  | @last a cs behind hform hbehind =>
    obtain ⟨fuel, rfl⟩ : ∃ n, fuel = n + 1 := Nat.exists_eq_add_one.2 hfuel
    have hrest : Delimits (behind ++ close :: rest) :=
      delimits_blanks_append hbehind (delimits_cons hends.2.1 _)
    rw [List.append_assoc, readSeries, h.read_eq_some hblanks hform hrest, Option.bind_eq_bind,
      Option.bind_some]
    dsimp only
    rw [skipBlanks_append_cons hbehind hends.1]
    exact if_pos rfl
  | @cons a items cs behind before text hform hbehind hbefore _ ih =>
    obtain ⟨fuel, rfl⟩ : ∃ n, fuel = n + 1 := Nat.exists_eq_add_one.2 (Nat.zero_lt_of_lt hfuel)
    have hrest : Delimits (behind ++ ',' :: (before ++ (text ++ close :: rest))) :=
      delimits_blanks_append hbehind (delimits_cons (by decide) _)
    have hread := h.read_eq_some hblanks hform hrest
    simp only [List.append_assoc, List.cons_append]
    rw [readSeries, hread, Option.bind_eq_bind, Option.bind_some]
    dsimp only
    rw [skipBlanks_append_cons hbehind (by decide)]
    dsimp only
    rw [if_neg hends.2.2, if_pos rfl, ih (Nat.le_of_succ_le_succ hfuel) hbefore]
    rfl

/-- The number of characters is a large enough bound. -/
theorem Reads.readSeries_length (h : Reads read form) {close : Char}
    (hclose : close ∈ [']', '\x7d']) {items : List α} {text : List Char}
    (htext : SeriesForm form items text) (rest : List Char) :
    readSeries read close (text ++ close :: rest).length (text ++ close :: rest) =
      some (items, rest) := by
  have hnil : IsBlanks [] := fun _ hc ↦ absurd hc List.not_mem_nil
  refine h.readSeries_eq_some hclose htext ?_ hnil rest
  have hlength := htext.length_le
  simp only [List.length_append, List.length_cons]
  omega

end Series

/-! ### Members -/

theorem readKey_eq_some {key : String} {keyText blanks blanks' : List Char}
    (hkey : StringForm key keyText) (hblanks : IsBlanks blanks) (hblanks' : IsBlanks blanks')
    (rest : List Char) :
    readKey (blanks ++ (keyText ++ (blanks' ++ ':' :: rest))) = some (key, rest) := by
  obtain ⟨body, rfl, hread⟩ := hkey.exists_body
  rw [readKey, List.cons_append, skipBlanks_append_cons hblanks (by decide)]
  simp only [hread, Option.bind_eq_bind, Option.bind_some]
  rw [skipBlanks_append_cons hblanks' (by decide)]
  rfl

theorem Reads.readMember {read : List Char → Option (Json × List Char)}
    {form : Json → List Char → Prop} (h : Reads read form) :
    Reads (readMember read) (MemberForm form) where
  read_eq_some hblanks hmember hrest := by
    cases hmember with
    | mk hkey hbefore hbefore' hvalue =>
      have hread := h.read_eq_some hbefore' hvalue hrest
      simp only [List.append_assoc, List.cons_append]
      rw [Json.readMember, readKey_eq_some hkey hblanks hbefore, Option.bind_eq_bind,
        Option.bind_some]
      dsimp only
      rw [hread]
      rfl
  begins hmember := by
    cases hmember with
    | mk hkey _ _ _ =>
      obtain ⟨body, rfl, -⟩ := hkey.exists_body
      exact ⟨'"', _, rfl, by decide⟩

/-! ### Values -/

section Containers

variable {read : List Char → Option (Json × List Char)} {form : Json → List Char → Prop}

theorem Reads.readArrayRest_eq_some (h : Reads read form) {items : List Json} {body : List Char}
    (hbody : BodyForm form items body) (rest : List Char) :
    readArrayRest read (body ++ ']' :: rest) = some (items, rest) := by
  cases hbody with
  | empty hblanks =>
    rw [readArrayRest, skipBlanks_append_cons hblanks (by decide)]
    rfl
  | series hblanks htext =>
    have hread := h.readSeries_length (show ']' ∈ _ by decide) htext rest
    obtain ⟨c, text, rfl, hc, hclose, -⟩ := h.begins_series htext
    rw [List.append_assoc, readArrayRest]
    rw [List.cons_append] at hread ⊢
    rw [skipBlanks_append_cons hblanks hc]
    split
    · rename_i heq
      exact absurd (List.cons.inj heq).1 hclose
    · exact (readItems_eq_readSeries read _ _).trans hread

theorem Reads.readObjectRest_eq_some (h : Reads read form) {members : Members} {body : List Char}
    (hbody : BodyForm (MemberForm form) members body) (rest : List Char) :
    readObjectRest read (body ++ '\x7d' :: rest) = some (members, rest) := by
  cases hbody with
  | empty hblanks =>
    rw [readObjectRest, skipBlanks_append_cons hblanks (by decide)]
    rfl
  | series hblanks htext =>
    have hread := h.readMember.readSeries_length (show '\x7d' ∈ _ by decide) htext rest
    obtain ⟨c, text, rfl, hc, -, hclose⟩ := h.readMember.begins_series htext
    rw [List.append_assoc, readObjectRest]
    rw [List.cons_append] at hread ⊢
    rw [skipBlanks_append_cons hblanks hc]
    split
    · rename_i heq
      exact absurd (List.cons.inj heq).1 hclose
    · exact (readMembers_eq_readSeries read _ _).trans hread

end Containers

theorem ScalarForm.begins {value : Json} {cs : List Char} (h : ScalarForm value cs) :
    BeginsThing cs := by
  obtain ⟨c, cs, rfl, hc⟩ := h.exists_head
  have hall : ∀ c ∈ scalarHeads, isJsonBlank c = false ∧ c ≠ ']' ∧ c ≠ '\x7d' := by
    simp [scalarHeads, isJsonBlank]
  exact ⟨c, cs, rfl, hall c hc⟩

/-- A value that is no container is read as one at every level. -/
theorem readValue_scalar {depth : Nat} {value : Json} {blanks cs rest : List Char}
    (hblanks : IsBlanks blanks) (h : ScalarForm value cs) (hrest : Delimits rest) :
    readValue depth (blanks ++ (cs ++ rest)) = some (value, rest) := by
  have hread := readScalar_eq_some h hrest
  obtain ⟨c, cs, rfl, hc⟩ := h.exists_head
  have hall : ∀ c ∈ scalarHeads, isJsonBlank c = false ∧ c ≠ '[' ∧ c ≠ '\x7b' := by
    simp [scalarHeads, isJsonBlank]
  obtain ⟨hblank, hbracket, hbrace⟩ := hall c hc
  cases depth with
  | zero =>
    rw [readValue, List.cons_append, skipBlanks_append_cons hblanks hblank]
    exact hread
  | succ depth =>
    rw [readValue, List.cons_append, skipBlanks_append_cons hblanks hblank]
    split
    · rename_i heq
      exact absurd (List.cons.inj heq).1 hbracket
    · rename_i heq
      exact absurd (List.cons.inj heq).1 hbrace
    · exact hread

/-- A reader of values for one level gives one for the next level. -/
theorem Reads.level {depth : Nat} {form : Json → List Char → Prop}
    (h : Reads (readValue depth) form) : Reads (readValue (depth + 1)) (LevelForm form) where
  read_eq_some hblanks hform hrest := by
    cases hform with
    | scalar hscalar => exact readValue_scalar hblanks hscalar hrest
    | array hbody =>
      rw [List.append_assoc, List.cons_append, List.singleton_append, readValue,
        skipBlanks_append_cons hblanks (by decide)]
      simp only [h.readArrayRest_eq_some hbody, Option.map_some]
    | object hbody =>
      rw [List.append_assoc, List.cons_append, List.singleton_append, readValue,
        skipBlanks_append_cons hblanks (by decide)]
      simp only [h.readObjectRest_eq_some hbody, Option.map_some]
  begins hform := by
    cases hform with
    | scalar hscalar => exact hscalar.begins
    | array _ => exact ⟨'[', _, rfl, by decide⟩
    | object _ => exact ⟨'\x7b', _, rfl, by decide⟩

/-- The reader of values reads the values of its level. -/
theorem reads_valueForm (depth : Nat) : Reads (readValue depth) (ValueForm depth) := by
  induction depth with
  | zero => exact ⟨readValue_scalar, ScalarForm.begins⟩
  | succ depth ih => exact ih.level

/-! ### Texts -/

/-- **A text is read as the value it is written for.** -/
theorem ofText?_eq_some {value : Json} {text : String} (h : TextForm value text) :
    ofText? text = some value := by
  cases h with
  | @mk blanks cs blanks' hblanks hvalue hblanks' =>
    have hend : Delimits blanks' := by
      have hnil : Delimits [] := fun _ hc ↦ nomatch hc
      simpa using delimits_blanks_append hblanks' hnil
    have hread := (reads_valueForm maxOpen).read_eq_some hblanks hvalue hend
    have hskip : skipBlanks blanks' = [] := by
      simpa [skipBlanks] using skipBlanks_append hblanks' []
    rw [ofText?, String.toList_ofList, List.append_assoc, hread, Option.bind_eq_bind,
      Option.bind_some]
    dsimp only
    rw [hskip]
    rfl

/-- A text is written for one value. -/
theorem TextForm.unique {value value' : Json} {text : String} (h : TextForm value text)
    (h' : TextForm value' text) : value = value' :=
  Option.some.inj ((ofText?_eq_some h).symm.trans (ofText?_eq_some h'))

theorem membersOfBytes?_eq_some {members : Members} {text : String}
    (h : TextForm (.object members) text) :
    membersOfBytes? (Wire.Textual.toBytes .string text) = some members := by
  have htext : String.fromUTF8? ⟨(Wire.Textual.toBytes .string text).toArray⟩ = some text :=
    Wire.Textual.ofBytes?_toBytes .string text
  rw [membersOfBytes?, htext, Option.bind_some, membersOfText?, ofText?_eq_some h]

/-! ### Members -/

theorem Binds.lookup?_eq_some {members : Members} {key : String} {value : Json}
    (h : Binds members key value) : lookup? members key = some value := by
  obtain ⟨before, after, rfl, hafter⟩ := h
  have hnone : after.reverse.find? (fun member ↦ member.1 = key) = none := by
    simpa using fun name value hmem ↦ hafter (name, value) hmem
  rw [lookup?, List.reverse_append, List.reverse_cons, List.append_assoc, List.find?_append, hnone]
  simp

theorem hasKey_iff {members : Members} {key : String} :
    hasKey members key = true ↔ ∃ value, (key, value) ∈ members := by
  simp [hasKey]

theorem Binds.hasKey {members : Members} {key : String} {value : Json}
    (h : Binds members key value) : hasKey members key = true := by
  obtain ⟨before, after, rfl, -⟩ := h
  exact hasKey_iff.2 ⟨value, by simp⟩

theorem Binds.text_eq {members : Members} {key s : String} (h : Binds members key (.string s)) :
    Attributes.text members key = s := by
  rw [Attributes.text, h.lookup?_eq_some]

end ChainRecord.Json
