import ChainRecord.Proofs.FieldMap
import ChainRecord.Proofs.WrappedMessages

/-!
# What records determine

The record of a message has its type URL, its tag and its field map, and so has the entry of a
wrapped message. Together they determine the message, whatever it was read with: the URL and the tag
say which kind it is of, if any, and of each kind messages are determined by their field maps, which
is decided for all layouts of the table at once (`Kind.hasDistinctNames_shape`).

An entry of a wrapped message that is left as it is has the field map of its wrapping and the tag
of unknown messages, which no kind has. So it is never mistaken for a message that was read.
-/

namespace ChainRecord

/-- Two entries say the same of their messages. -/
structure Record.NestedMessage.Same (entry entry' : Record.NestedMessage) : Prop where
  typeUrl : entry.typeUrl = entry'.typeUrl
  tag : entry.tag = entry'.tag
  data : Json.Same (.object entry.data) (.object entry'.data)

/-- What the record of a message has in common with an entry. -/
def Record.Message.entry (r : Record.Message) : Record.NestedMessage :=
  ⟨r.typeUrl, r.tag, r.data⟩

namespace Message

open Reading

/-! ### Kinds -/

theorem Kind.hasDistinctNames_shape (kind : Kind) : kind.shape.hasDistinctNames = true := by
  cases kind <;> rename_i kind <;> cases kind <;> decide +kernel

/-- No kind has the tag of unknown messages. -/
theorem Kind.tag_ne_unknown (kind : Kind) : kind.tag ≠ .unknown := by
  cases kind <;> rename_i kind <;> cases kind <;> decide

/-- Of one kind, or of none, messages with the same fields are equal. -/
theorem eq_of_same_fields {message message' : Message} (hkind : message.kind? = message'.kind?)
    (hfields : Json.Same (.object message.fields) (.object message'.fields)) :
    message = message' := by
  cases message with
  | known kind body =>
    cases message' with
    | known kind' body' =>
      obtain rfl := Option.some.inj hkind
      rw [kind.shape.eq_of_same kind.hasDistinctNames_shape hfields]
    | unknown any' => exact nomatch hkind
  | unknown any =>
    cases message' with
    | known kind' body' => exact nomatch hkind
    | unknown any' => rw [Any.shape.eq_of_same (by decide +kernel) hfields]

/-- The type URL and the tag say which kind a message is of. A message that is unknown may have the
type URL of a kind, but it does not have its tag. -/
theorem kind?_eq_of_typeUrl_of_tag {message message' : Message}
    (hurl : message.typeUrl = message'.typeUrl) (htag : message.tag = message'.tag) :
    message.kind? = message'.kind? := by
  cases message with
  | known kind body =>
    cases message' with
    | known kind' body' => exact congrArg some (Kind.typeUrl_injective hurl)
    | unknown any' => exact absurd htag kind.tag_ne_unknown
  | unknown any =>
    cases message' with
    | known kind' body' => exact absurd htag.symm kind'.tag_ne_unknown
    | unknown any' => rfl

/-! ### Records and entries -/

/-- The entry of a message. -/
def entry (message : Message) : Record.NestedMessage :=
  ⟨message.typeUrl, message.tag, message.fields⟩

theorem eq_of_same_entry {message message' : Message} (h : message.entry.Same message'.entry) :
    message = message' :=
  eq_of_same_fields (kind?_eq_of_typeUrl_of_tag h.typeUrl h.tag) h.data

/-- What a record has in common with an entry is decided by the message alone. -/
theorem entry_of_recordIn {scope : Scope} {message : Message} {r : Record.Message}
    (h : message.recordIn scope = .ok r) : r.entry = message.entry := by
  obtain ⟨found, -, rfl⟩ := recordIn_eq_ok_iff.1 h
  rfl

/-- What the entry of a wrapped message is about: the message, or its wrapping. -/
def IsAbout (message : Message) (any : Any) : Prop :=
  message = unknown any ∨ ofAny any = .ok message

theorem typeUrl_of_ofAny {any : Any} {message : Message} (h : ofAny any = .ok message) :
    message.typeUrl = any.typeUrl := by
  have hunwraps := h ▸ unwraps_ofAny any
  cases hunwraps with
  | unknown hne => rfl
  | known hurl hdecode => exact hurl

/-- Only the wrapping of a message of no known type is itself taken for a message. -/
theorem eq_of_ofAny_eq_unknown {any any' : Any} (h : ofAny any = .ok (.unknown any')) :
    any = any' := by
  have hunwraps := h ▸ unwraps_ofAny any
  cases hunwraps with
  | unknown hne => rfl

/-- Two wrapped messages of one entry are the same bytes of one type, or the same message. -/
theorem IsAbout.eq_or_ofAny_eq {message : Message} {any any' : Any} (h : message.IsAbout any)
    (h' : message.IsAbout any') :
    any = any' ∨ (ofAny any = .ok message ∧ ofAny any' = .ok message) := by
  rcases h with rfl | h
  · rcases h' with heq | h'
    · exact Or.inl (Message.unknown.inj heq)
    · exact Or.inl (eq_of_ofAny_eq_unknown h').symm
  · rcases h' with rfl | h'
    · exact Or.inl (eq_of_ofAny_eq_unknown h)
    · exact Or.inr ⟨h, h'⟩

theorem exists_isAbout_nestedAt (d : Decoder) (block : Block) (position : Nat) (status : Status)
    (levels : Nat) (any : Any) :
    ∃ message : Message, message.IsAbout any ∧
      nestedAt d block position status levels any = message.entry := by
  cases levels with
  | zero => exact ⟨unknown any, Or.inl rfl, rfl⟩
  | succ levels =>
    cases hany : ofAny any with
    | error fault =>
      exact ⟨unknown any, Or.inl rfl, nestedAt_succ_of_error d block position status levels hany⟩
    | ok message =>
      rcases nestedAt_succ_of_ok d block position status levels hany with ⟨-, hentry⟩ | ⟨-, hentry⟩
      · exact ⟨unknown any, Or.inl rfl, hentry⟩
      · refine ⟨message, Or.inr hany, ?_⟩
        rw [hentry, ← typeUrl_of_ofAny hany]
        rfl

/-- **Records are lossless.** Messages of one kind, or of none, are equal if their fields are. The
type URL, the tag and the fields in a record determine the message, wherever it was recorded; those
in the entry of a wrapped message determine the message that was read, or else the bytes that were
left as they are. -/
theorem fields_lossless :
    (∀ message message' : Message, message.kind? = message'.kind? →
      Json.Same (.object message.fields) (.object message'.fields) → message = message') ∧
    (∀ (d d' : Decoder) (block block' : Block) (position position' : Nat)
      (status status' : Status) (message message' : Message) (r r' : Record.Message),
      message.record d block position status = .ok r →
      message'.record d' block' position' status' = .ok r' →
      r.entry.Same r'.entry → message = message') ∧
    ∀ (d d' : Decoder) (block block' : Block) (position position' : Nat)
      (status status' : Status) (levels levels' : Nat) (any any' : Any),
      (nestedAt d block position status levels any).Same
        (nestedAt d' block' position' status' levels' any') →
      any = any' ∨ ∃ message, ofAny any = .ok message ∧ ofAny any' = .ok message := by
  refine ⟨fun _ _ ↦ eq_of_same_fields, ?_, ?_⟩
  · intro d d' block block' position position' status status' message message' r r' hr hr' hsame
    rw [entry_of_recordIn hr, entry_of_recordIn hr'] at hsame
    exact eq_of_same_entry hsame
  · intro d d' block block' position position' status status' levels levels' any any' hsame
    obtain ⟨message, habout, hentry⟩ :=
      exists_isAbout_nestedAt d block position status levels any
    obtain ⟨message', habout', hentry'⟩ :=
      exists_isAbout_nestedAt d' block' position' status' levels' any'
    rw [hentry, hentry'] at hsame
    obtain rfl := eq_of_same_entry hsame
    exact (habout.eq_or_ofAny_eq habout').imp_right fun h ↦ ⟨message, h⟩

/-- A vote that leaves out all of its fields. -/
def shortVote : Any := ⟨"/cosmos.gov.v1.MsgVote", []⟩

/-- The same vote, with the number of the proposal written out. -/
def longVote : Any := ⟨"/cosmos.gov.v1.MsgVote", [8, 0]⟩

theorem ofAny_shortVote : ofAny shortVote = .ok (known (.gov .vote) ⟨0, "", 0, ""⟩) := by
  have hurl : (Kind.gov .vote).typeUrl = shortVote.typeUrl := rfl
  rw [ofAny_of_typeUrl_eq hurl]
  rfl

theorem ofAny_longVote : ofAny longVote = .ok (known (.gov .vote) ⟨0, "", 0, ""⟩) := by
  have hurl : (Kind.gov .vote).typeUrl = longVote.typeUrl := rfl
  rw [ofAny_of_typeUrl_eq hurl]
  rfl

/-- Two ways to write a vote are one message, by its records in two blocks and by its entries. -/
theorem fields_lossless_vote :
    ∃ m m' : Message, ∃ r r' : Record.Message,
      ofAny shortVote = .ok m ∧ ofAny longVote = .ok m' ∧
      m.record {} ⟨100, ⟨1700000000, 0⟩⟩ 0 .success = .ok r ∧
      m'.record {} ⟨101, ⟨1700000006, 0⟩⟩ 1 .failed = .ok r' ∧ m = m' ∧
      (shortVote = longVote ∨
        ∃ message, ofAny shortVote = .ok message ∧ ofAny longVote = .ok message) := by
  refine ⟨_, _, _, _, ofAny_shortVote, ofAny_longVote, rfl, rfl, ?_, ?_⟩
  · exact fields_lossless.2.1 {} {} ⟨100, ⟨1700000000, 0⟩⟩ ⟨101, ⟨1700000006, 0⟩⟩ 0 1 .success
      .failed _ _ _ _ rfl rfl ⟨rfl, rfl, .refl _⟩
  · refine fields_lossless.2.2 {} {} ⟨100, ⟨1700000000, 0⟩⟩ ⟨100, ⟨1700000000, 0⟩⟩ 0 0 .success
      .success 1 1 _ _ ?_
    rw [nestedAt, nestedAt, ofAny_shortVote, ofAny_longVote]
    exact ⟨rfl, rfl, .refl _⟩

end Message

end ChainRecord
