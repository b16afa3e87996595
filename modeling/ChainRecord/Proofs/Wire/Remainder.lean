import ChainRecord.Proofs.Outcome
import ChainRecord.Proofs.Wire.Run

/-!
# What readers leave

A reader that succeeds leaves an end of the bytes it was given, for every shape and every depth
(`Shape.suffix_of_readField`). So a content behind its length takes exactly its own bytes, whatever
kind of field it is read as (`Kind.rest_eq_of_readField`): two layouts can differ on what a field
means, but not on where it ends.
-/

namespace ChainRecord.Wire

/-! ### Keys and contents -/

theorem require_eq_ok {α : Type} {cause : Cause} {x : Option α} {a : α} :
    require cause x = .ok a ↔ x = some a := by
  cases x <;> simp [require]

theorem readVarint_suffix {n : Nat} {bytes rest : Bytes} (h : readVarint bytes = some (n, rest)) :
    rest <:+ bytes := by
  obtain ⟨front, -, rfl, -⟩ := readVarint_split h
  exact List.suffix_append front rest

/-- A number takes at least one byte. -/
theorem readVarint_length_lt {n : Nat} {bytes rest : Bytes}
    (h : readVarint bytes = some (n, rest)) : rest.length < bytes.length := by
  obtain ⟨front, hne, rfl, -⟩ := readVarint_split h
  have hfront := List.length_pos_iff.2 hne
  rw [List.length_append]
  omega

theorem readKey_eq_ok {bytes rest : Bytes} {key : Key} (h : readKey bytes = .ok (key, rest)) :
    ∃ n, readVarint bytes = some (n, rest) := by
  obtain ⟨⟨n, behind⟩, hn, h⟩ := bind_eq_ok_iff.1 h
  dsimp only at h
  split at h
  · exact absurd h (by simp [refuse])
  · split at h
    · exact absurd h (by simp [refuse])
    · split at h
      · exact absurd h (by simp [refuse])
      · obtain ⟨-, rfl⟩ := Prod.mk.inj (Except.ok.inj h)
        exact ⟨n, require_eq_ok.1 hn⟩

theorem readBytes_eq_ok {count : Nat} {bytes content rest : Bytes}
    (h : readBytes count bytes = .ok (content, rest)) : bytes = content ++ rest := by
  rw [readBytes] at h
  split at h
  · exact absurd h (by simp [refuse])
  · obtain ⟨rfl, rfl⟩ := Prod.mk.inj (Except.ok.inj h)
    exact (List.take_append_drop count bytes).symm

/-- A content stands right behind its length. -/
theorem readSized_eq_ok {bytes content rest : Bytes} (h : readSized bytes = .ok (content, rest)) :
    ∃ n, readVarint bytes = some (n, content ++ rest) := by
  obtain ⟨⟨n, behind⟩, hn, hcontent⟩ := bind_eq_ok_iff.1 h
  exact ⟨n, by rw [← readBytes_eq_ok hcontent, require_eq_ok.1 hn]⟩

theorem readSized_suffix {bytes content rest : Bytes} (h : readSized bytes = .ok (content, rest)) :
    rest <:+ bytes := by
  obtain ⟨n, hn⟩ := readSized_eq_ok h
  exact (List.suffix_append content rest).trans (readVarint_suffix hn)

/-! ### Loops and spans -/

/-- What every round of a loop keeps, the loop keeps. -/
theorem readUntil_induction {σ : Type} {read : σ → Bytes → Except Fault (σ × Bytes)}
    {motive : σ → Bytes → Prop}
    (hread : ∀ state bytes middle rest, motive state bytes → read state bytes = .ok (middle, rest) →
      motive middle rest)
    {stop fuel : Nat} {state final : σ} {bytes rest : Bytes} (hbytes : motive state bytes)
    (h : readUntil stop read fuel state bytes = .ok (final, rest)) : motive final rest := by
  induction fuel generalizing state bytes with
  | zero =>
    obtain ⟨rfl, rfl⟩ := Prod.mk.inj (Except.ok.inj h)
    exact hbytes
  | succ fuel ih =>
    rw [readUntil] at h
    split at h
    · obtain ⟨rfl, rfl⟩ := Prod.mk.inj (Except.ok.inj h)
      exact hbytes
    · obtain ⟨⟨middle, behind⟩, hround, h⟩ := bind_eq_ok_iff.1 h
      exact ih (hread _ _ _ _ hbytes hround) h

section Loops

variable {σ : Type} {read : σ → Bytes → Except Fault (σ × Bytes)}

/-- A span is a length, and behind it a loop that ends where the span ends. -/
theorem readSpan_eq_ok {state final : σ} {bytes rest : Bytes}
    (h : readSpan read state bytes = .ok (final, rest)) :
    ∃ count body, readVarint bytes = some (count, body) ∧ count ≤ body.length ∧
      readUntil (body.length - count) read body.length state body = .ok (final, rest) ∧
      rest.length = body.length - count := by
  obtain ⟨⟨count, body⟩, hcount, h⟩ := bind_eq_ok_iff.1 h
  dsimp only at h
  split at h
  · exact absurd h (by simp [refuse])
  · obtain ⟨⟨found, behind⟩, hloop, h⟩ := bind_eq_ok_iff.1 h
    dsimp only at h
    split at h
    · obtain ⟨rfl, rfl⟩ := Prod.mk.inj (Except.ok.inj h)
      exact ⟨count, body, require_eq_ok.1 hcount, by omega, hloop, by assumption⟩
    · exact absurd h (by simp [refuse])

/-- A reader leaves an end of the bytes it is given. -/
def LeavesSuffix (read : σ → Bytes → Except Fault (σ × Bytes)) : Prop :=
  ∀ ⦃state bytes final rest⦄, read state bytes = .ok (final, rest) → rest <:+ bytes

theorem LeavesSuffix.readUntil (hread : LeavesSuffix read) (stop fuel : Nat) :
    LeavesSuffix (readUntil stop read fuel) := by
  intro state bytes final rest h
  refine readUntil_induction (motive := fun _ left ↦ left <:+ bytes) ?_ (List.suffix_refl bytes) h
  intro state left middle behind hleft hround
  exact (hread hround).trans hleft

theorem LeavesSuffix.readSpan (hread : LeavesSuffix read) : LeavesSuffix (readSpan read) := by
  intro state bytes final rest h
  obtain ⟨count, body, hcount, -, hloop, -⟩ := readSpan_eq_ok h
  exact (hread.readUntil _ _ hloop).trans (readVarint_suffix hcount)

theorem LeavesSuffix.readKeyed {readField : Key → σ → Bytes → Except Fault (σ × Bytes)}
    (hread : ∀ key, LeavesSuffix (readField key)) : LeavesSuffix (readKeyed readField) := by
  intro state bytes final rest h
  obtain ⟨⟨key, behind⟩, hkey, h⟩ := bind_eq_ok_iff.1 h
  obtain ⟨n, hn⟩ := readKey_eq_ok hkey
  exact (hread key h).trans (readVarint_suffix hn)

/-- A span takes exactly the content behind its length. -/
theorem rest_eq_of_readSpan (hread : LeavesSuffix read) {state final : σ}
    {content rest left : Bytes} (hsize : content.length < 2 ^ 64)
    (h : readSpan read state (writeSized content ++ rest) = .ok (final, left)) : left = rest := by
  obtain ⟨count, body, hcount, -, hloop, hleft⟩ := readSpan_eq_ok h
  rw [writeSized, List.append_assoc, readVarint_writeVarint hsize] at hcount
  obtain ⟨rfl, rfl⟩ := Prod.mk.inj (Option.some.inj hcount)
  -- both are ends of the same bytes, and of one length
  have hlength : left.length = rest.length := by
    rw [List.length_append] at hleft
    omega
  have hsuffix := hread.readUntil _ _ hloop
  exact (List.suffix_of_suffix_length_le hsuffix (List.suffix_append content rest)
    hlength.le).eq_of_length hlength

end Loops

/-! ### Skipped fields -/

theorem skipGroup_suffix {skipField : Key → Bytes → Except Fault Bytes}
    (hskip : ∀ key bytes rest, skipField key bytes = .ok rest → rest <:+ bytes) {number fuel : Nat}
    {bytes rest : Bytes} (h : skipGroup skipField number fuel bytes = .ok rest) :
    rest <:+ bytes := by
  induction fuel generalizing bytes with
  | zero => exact absurd h (by simp [skipGroup, refuse])
  | succ fuel ih =>
    obtain ⟨⟨key, behind⟩, hkey, h⟩ := bind_eq_ok_iff.1 h
    obtain ⟨n, hn⟩ := readKey_eq_ok hkey
    dsimp only at h
    split at h
    · split at h
      · obtain rfl := Except.ok.inj h
        exact readVarint_suffix hn
      · exact absurd h (by simp [refuse])
    · obtain ⟨left, hleft, h⟩ := bind_eq_ok_iff.1 h
      exact ((ih h).trans (hskip key behind left hleft)).trans (readVarint_suffix hn)

theorem skip_suffix {depth : Nat} {key : Key} {bytes rest : Bytes}
    (h : skip depth key bytes = .ok rest) : rest <:+ bytes := by
  induction depth generalizing key bytes rest with
  | zero => exact absurd h (by simp [skip, refuse])
  | succ depth ih =>
    rw [skip] at h
    cases hwire : key.wireType with
    | varint =>
      rw [hwire] at h
      obtain ⟨⟨n, left⟩, hn, rfl⟩ := map_eq_ok_iff.1 h
      exact readVarint_suffix (require_eq_ok.1 hn)
    | fixed64 | fixed32 =>
      rw [hwire] at h
      obtain ⟨⟨content, left⟩, hcontent, rfl⟩ := map_eq_ok_iff.1 h
      rw [readBytes_eq_ok hcontent]
      exact List.suffix_append content left
    | lengthDelimited =>
      rw [hwire] at h
      obtain ⟨⟨content, left⟩, hcontent, rfl⟩ := map_eq_ok_iff.1 h
      exact readSized_suffix hcontent
    | startGroup =>
      rw [hwire] at h
      exact skipGroup_suffix (fun _ _ _ ↦ ih) h
    | endGroup =>
      rw [hwire] at h
      exact absurd h (by simp [refuse])

/-! ### Values -/

theorem Numeric.read_eq_ok {β : Type} {numeric : Numeric β} {value : β} {bytes rest : Bytes}
    (h : numeric.read bytes = .ok (value, rest)) : ∃ n, readVarint bytes = some (n, rest) := by
  obtain ⟨⟨n, behind⟩, hn, h⟩ := bind_eq_ok_iff.1 h
  obtain ⟨-, rfl⟩ := Prod.mk.inj (Except.ok.inj h)
  exact ⟨n, require_eq_ok.1 hn⟩

theorem Numeric.readNext_eq_ok {β : Type} {numeric : Numeric β} {values final : List β}
    {bytes rest : Bytes} (h : numeric.readNext values bytes = .ok (final, rest)) :
    ∃ value n, final = values ++ [value] ∧ readVarint bytes = some (n, rest) := by
  obtain ⟨⟨value, left⟩, hvalue, h⟩ := bind_eq_ok_iff.1 h
  obtain ⟨rfl, rfl⟩ := Prod.mk.inj (Except.ok.inj h)
  obtain ⟨n, hn⟩ := Numeric.read_eq_ok hvalue
  exact ⟨value, n, rfl, hn⟩

theorem Numeric.readNext_suffix {β : Type} (numeric : Numeric β) :
    LeavesSuffix numeric.readNext := by
  intro values bytes final rest h
  obtain ⟨_, n, -, hn⟩ := Numeric.readNext_eq_ok h
  exact readVarint_suffix hn

theorem Textual.read_eq_ok {β : Type} {textual : Textual β} {value : β} {bytes rest : Bytes}
    (h : textual.read bytes = .ok (value, rest)) :
    ∃ content, readSized bytes = .ok (content, rest) ∧ textual.ofBytes? content = some value := by
  obtain ⟨⟨content, left⟩, hcontent, h⟩ := bind_eq_ok_iff.1 h
  obtain ⟨found, hvalue, h⟩ := bind_eq_ok_iff.1 h
  obtain ⟨rfl, rfl⟩ := Prod.mk.inj (Except.ok.inj h)
  exact ⟨content, hcontent, require_eq_ok.1 hvalue⟩

/-- A message behind its length is read one level further in. -/
theorem readMessage_eq_ok {α : Type}
    {readField : Nat → Key → α → Bytes → Except Fault (α × Bytes)} {depth : Nat}
    {wireType : WireType} {message final : α} {bytes rest : Bytes}
    (h : readMessage readField depth wireType message bytes = .ok (final, rest)) :
    ∃ inner, depth = inner + 1 ∧
      readSpan (readKeyed (readField inner)) message bytes = .ok (final, rest) := by
  obtain ⟨_, -, h⟩ := bind_eq_ok_iff.1 h
  cases depth with
  | zero => exact absurd h (by simp [refuse])
  | succ inner => exact ⟨inner, rfl, h⟩

section Fields

variable {β : Type} {depth : Nat} {wireType : WireType} {bytes rest : Bytes}

theorem Kind.readField_number_eq_ok {numeric : Numeric β} {value final : β}
    (h : (Kind.number numeric).readField depth wireType value bytes = .ok (final, rest)) :
    ∃ n, readVarint bytes = some (n, rest) := by
  obtain ⟨_, -, h⟩ := bind_eq_ok_iff.1 h
  exact Numeric.read_eq_ok h

theorem Kind.readField_text_eq_ok {textual : Textual β} {value final : β}
    (h : (Kind.text textual).readField depth wireType value bytes = .ok (final, rest)) :
    textual.read bytes = .ok (final, rest) := by
  obtain ⟨_, -, h⟩ := bind_eq_ok_iff.1 h
  exact h

theorem Kind.readField_numbers_eq_ok {numeric : Numeric β} {values final : List β}
    (h : (Kind.numbers numeric).readField depth wireType values bytes = .ok (final, rest)) :
    readSpan numeric.readNext values bytes = .ok (final, rest) ∨
      numeric.readNext values bytes = .ok (final, rest) := by
  rw [Kind.readField] at h
  split at h
  · exact Or.inl h
  · obtain ⟨_, -, h⟩ := bind_eq_ok_iff.1 h
    exact Or.inr h

theorem Kind.readField_texts_eq_ok {textual : Textual β} {values final : List β}
    (h : (Kind.texts textual).readField depth wireType values bytes = .ok (final, rest)) :
    ∃ value, final = values ++ [value] ∧ textual.read bytes = .ok (value, rest) := by
  obtain ⟨_, -, h⟩ := bind_eq_ok_iff.1 h
  obtain ⟨⟨value, left⟩, hvalue, h⟩ := bind_eq_ok_iff.1 h
  obtain ⟨rfl, rfl⟩ := Prod.mk.inj (Except.ok.inj h)
  exact ⟨value, rfl, hvalue⟩

theorem Kind.readField_message_eq_ok {shape : Shape β} {value final : Option β}
    (h : (Kind.message shape).readField depth wireType value bytes = .ok (final, rest)) :
    ∃ m inner, final = some m ∧
      readSpan (readKeyed (shape.readField inner)) (value.getD shape.absent) bytes =
        .ok (m, rest) := by
  obtain ⟨⟨m, left⟩, hm, h⟩ := bind_eq_ok_iff.1 h
  obtain ⟨rfl, rfl⟩ := Prod.mk.inj (Except.ok.inj h)
  obtain ⟨inner, -, hspan⟩ := readMessage_eq_ok hm
  exact ⟨m, inner, rfl, hspan⟩

theorem Kind.readField_messages_eq_ok {shape : Shape β} {values final : List β}
    (h : (Kind.messages shape).readField depth wireType values bytes = .ok (final, rest)) :
    ∃ m inner, final = values ++ [m] ∧
      readSpan (readKeyed (shape.readField inner)) shape.absent bytes = .ok (m, rest) := by
  obtain ⟨⟨m, left⟩, hm, h⟩ := bind_eq_ok_iff.1 h
  obtain ⟨rfl, rfl⟩ := Prod.mk.inj (Except.ok.inj h)
  obtain ⟨inner, -, hspan⟩ := readMessage_eq_ok hm
  exact ⟨m, inner, rfl, hspan⟩

/-- A value is read into the first field of a row or into the others, as its number says, and the
rest of the row stays. -/
theorem Fields.readField_cons_eq_ok {ρ : Type} {number : Nat} {name owner : String}
    {kind : Kind β} {fields : Fields ρ} {key : Key} {value : β} {row : ρ} {final : β × ρ}
    (h : (Fields.cons number name kind fields).readField owner depth key (value, row) bytes =
      .ok (final, rest)) :
    (key.number = number ∧ ∃ found, final = (found, row) ∧
        kind.readField depth key.wireType value bytes = .ok (found, rest)) ∨
      key.number ≠ number ∧ ∃ found, final = (value, found) ∧
        fields.readField owner depth key row bytes = .ok (found, rest) := by
  rw [Fields.readField] at h
  by_cases hnumber : key.number = number
  · rw [if_pos hnumber] at h
    left
    cases hvalue : kind.readField depth key.wireType value bytes with
    | error fault =>
      rw [hvalue] at h
      exact absurd h (by simp)
    | ok pair =>
      rw [hvalue] at h
      obtain ⟨rfl, rfl⟩ := Prod.mk.inj (Except.ok.inj h)
      exact ⟨hnumber, pair.1, rfl, rfl⟩
  · rw [if_neg hnumber] at h
    right
    obtain ⟨⟨found, left⟩, hfound, h⟩ := map_eq_ok_iff.1 h
    obtain ⟨rfl, rfl⟩ := Prod.mk.inj h
    exact ⟨hnumber, found, rfl, hfound⟩

end Fields

/-! ### All shapes -/

mutual

/-- What is read into a field leaves an end of the bytes. -/
theorem Kind.suffix_of_readField {β : Type} : (kind : Kind β) → (depth : Nat) →
    (wireType : WireType) → LeavesSuffix (kind.readField depth wireType)
  | .number _, _, _, _, _, _, _, h => by
    obtain ⟨n, hn⟩ := Kind.readField_number_eq_ok h
    exact readVarint_suffix hn
  | .text _, _, _, _, _, _, _, h => by
    obtain ⟨content, hcontent, -⟩ := Textual.read_eq_ok (Kind.readField_text_eq_ok h)
    exact readSized_suffix hcontent
  | .numbers numeric, _, _, _, _, _, _, h => by
    rcases Kind.readField_numbers_eq_ok h with hspan | hnext
    · exact numeric.readNext_suffix.readSpan hspan
    · exact numeric.readNext_suffix hnext
  | .texts _, _, _, _, _, _, _, h => by
    obtain ⟨value, -, hvalue⟩ := Kind.readField_texts_eq_ok h
    obtain ⟨content, hcontent, -⟩ := Textual.read_eq_ok hvalue
    exact readSized_suffix hcontent
  | .message shape, _, _, _, _, _, _, h => by
    obtain ⟨m, inner, -, hspan⟩ := Kind.readField_message_eq_ok h
    exact (LeavesSuffix.readKeyed (Shape.suffix_of_readField shape inner)).readSpan hspan
  | .messages shape, _, _, _, _, _, _, h => by
    obtain ⟨m, inner, -, hspan⟩ := Kind.readField_messages_eq_ok h
    exact (LeavesSuffix.readKeyed (Shape.suffix_of_readField shape inner)).readSpan hspan

/-- What is read into a row leaves an end of the bytes. -/
theorem Fields.suffix_of_readField {ρ : Type} : (fields : Fields ρ) → (owner : String) →
    (depth : Nat) → (key : Key) → LeavesSuffix (fields.readField owner depth key)
  | .nil, _, _, _, (), _, _, _, h => by
    obtain ⟨left, hleft, h⟩ := map_eq_ok_iff.1 h
    obtain ⟨-, rfl⟩ := Prod.mk.inj h
    exact skip_suffix hleft
  | .cons _ _ kind fields, owner, depth, key, (_, _), _, _, _, h => by
    rcases Fields.readField_cons_eq_ok h with ⟨-, found, -, hfound⟩ | ⟨-, found, -, hfound⟩
    · exact Kind.suffix_of_readField kind depth key.wireType hfound
    · exact Fields.suffix_of_readField fields owner depth key hfound

/-- What is read into a message leaves an end of the bytes. -/
theorem Shape.suffix_of_readField {α : Type} : (shape : Shape α) → (depth : Nat) → (key : Key) →
    LeavesSuffix (shape.readField depth key)
  | .mk name fields _ _ _ _, depth, key, _, _, _, _, h => by
    obtain ⟨⟨row, left⟩, hleft, h⟩ := map_eq_ok_iff.1 h
    obtain ⟨-, rfl⟩ := Prod.mk.inj h
    exact Fields.suffix_of_readField fields name depth key hleft

end

/-- A content behind its length takes exactly its own bytes, whatever kind of field it is read
as. -/
theorem Kind.rest_eq_of_readField {β : Type} (kind : Kind β) {depth : Nat} {value final : β}
    {content rest left : Bytes} (hsize : content.length < 2 ^ 64)
    (h : kind.readField depth .lengthDelimited value (writeSized content ++ rest) =
      .ok (final, left)) : left = rest := by
  have htext {γ : Type} {textual : Textual γ} {found : γ}
      (hread : textual.read (writeSized content ++ rest) = .ok (found, left)) : left = rest := by
    obtain ⟨bytes, hbytes, -⟩ := Textual.read_eq_ok hread
    rw [readSized_writeSized hsize] at hbytes
    exact (Prod.mk.inj (Except.ok.inj hbytes)).2.symm
  cases kind with
  | number numeric =>
    exact absurd h (by simp [Kind.readField, expectWireType, refuse, bind, Except.bind])
  | text textual => exact htext (Kind.readField_text_eq_ok h)
  | numbers numeric => exact rest_eq_of_readSpan numeric.readNext_suffix hsize h
  | texts textual =>
    obtain ⟨found, -, hfound⟩ := Kind.readField_texts_eq_ok h
    exact htext hfound
  | message shape =>
    obtain ⟨m, inner, -, hspan⟩ := Kind.readField_message_eq_ok h
    exact rest_eq_of_readSpan (LeavesSuffix.readKeyed (shape.suffix_of_readField inner)) hsize hspan
  | messages shape =>
    obtain ⟨m, inner, -, hspan⟩ := Kind.readField_messages_eq_ok h
    exact rest_eq_of_readSpan (LeavesSuffix.readKeyed (shape.suffix_of_readField inner)) hsize hspan

end ChainRecord.Wire
