import ChainRecord.Proofs.Lists
import ChainRecord.Proofs.ProposalGenerations
import ChainRecord.Proofs.WrappedMessages

/-!
# What is gathered of a proposal

A proposal of the second generation has texts of its own and messages, and some of the messages say
something of it themselves. What is gathered of all of them message by message is said here of the
whole list (`Summarizes`). For a text the first one that is not empty counts, and for the type and
the changes the last one that is given; messages that say nothing do not count, wherever they stand,
and which messages say a content is decided by the table of messages (`contentIn?_eq_some_iff`).
What is still open in the end is made of the messages themselves.

One message adds its text behind those before it and its type and changes before those behind it
(`Summary.add_eq`). Both readings go together along the list (`foldl_add`), since a first text among
first texts is a first text, and so it is with last ones.
-/

namespace ChainRecord.Gov

open Reading

/-! ### What messages say -/

/-- The content that a wrapped message executes, if it executes one that is known. -/
def contentIn? (any : Any) : Option LegacyGov.Content :=
  match Message.ofAny any with
  | .ok (.known (.gov .execLegacyContent) m) => m.content.bind LegacyGov.contentOf?
  | _ => none

/-- A content is said by a message of the one kind that executes contents. -/
theorem contentIn?_eq_some_iff {any : Any} {said : LegacyGov.Content} :
    contentIn? any = some said ↔
      ∃ (m : MsgExecLegacyContent) (content : Any),
        Message.Unwraps any (.ok (.known (.gov .execLegacyContent) m)) ∧
        m.content = some content ∧ LegacyGov.contentOf? content = some said := by
  constructor
  · intro h
    unfold contentIn? at h
    split at h
    · rename_i m hany
      obtain ⟨content, hcontent, hsaid⟩ := Option.bind_eq_some_iff.1 h
      exact ⟨m, content, hany ▸ Message.unwraps_ofAny any, hcontent, hsaid⟩
    · cases h
  · rintro ⟨m, content, hunwraps, hcontent, hsaid⟩
    cases hunwraps with
    | known hurl hdecode =>
      rw [contentIn?, Message.ofAny_of_typeUrl_eq hurl, hdecode]
      exact Option.bind_eq_some_iff.2 ⟨content, hcontent, hsaid⟩

/-- The type that a wrapped message gives to the proposal, if it gives one. -/
def typeIn? (any : Any) : Option Record.ProposalType :=
  match Message.ofAny any with
  | .ok (.known (.gov .execLegacyContent) m) =>
    (m.content.bind LegacyGov.contentOf?).map (·.proposalType)
  | .ok (.known (.upgrade .softwareUpgrade) _) => some .softwareUpgrade
  | .ok (.known (.upgrade .cancelUpgrade) _) => some .cancelSoftwareUpgrade
  | _ => none

/-- The contents that are executed by messages, in their order. -/
def contentsIn (messages : List Any) : List LegacyGov.Content :=
  messages.filterMap contentIn?

/-- One line for each message, with its number from one on and its type. -/
def linesOf (messages : List Any) : List String :=
  messages.mapIdx fun i any ↦ toString (i + 1) ++ ". " ++ any.typeUrl

/-! ### First and last ones -/

/-- The first text that is not empty, and the empty one if there is none. -/
def firstText (texts : List String) : String :=
  (texts.find? (· ≠ "")).getD ""

theorem firstText_cons (text : String) (texts : List String) :
    firstText (text :: texts) = orElseText text (firstText texts) := by
  by_cases htext : text = ""
  · subst htext
    simp [firstText]
  · rw [orElseText_of_ne htext]
    simp [firstText, htext]

@[simp]
theorem firstText_singleton (text : String) : firstText [text] = text := by
  by_cases htext : text = "" <;> simp [firstText, htext]

theorem firstText_pair (first second : String) :
    firstText [first, second] = orElseText first second := by
  rw [firstText_cons, firstText_singleton]

/-- A first text among first texts is the first one of all. -/
theorem firstText_append (texts texts' : List String) :
    firstText (texts ++ texts') = firstText (firstText texts :: texts') := by
  unfold firstText
  rw [List.find?_append]
  cases h : texts.find? (· ≠ "") with
  | none => simp
  | some text =>
    have htext : text ≠ "" := by simpa using List.find?_some h
    simp [htext]

/-! ### Messages one by one -/

theorem Summary.add_eq (summary : Summary) (any : Any) :
    summary.add any =
      { proposalType := (typeIn? any).getD summary.proposalType
        title := firstText (summary.title :: (contentIn? any).toList.map (·.title))
        description :=
          firstText (summary.description :: (contentIn? any).toList.map (·.description))
        changes := (contentIn? any).bind (·.changes) <|> summary.changes } := by
  rw [Summary.add]
  split
  · rename_i m hany
    rw [contentIn?, typeIn?, hany]
    dsimp only
    cases m.content.bind LegacyGov.contentOf? with
    | none => simp
    | some said => simp [firstText_pair]
  · rename_i m hany
    rw [contentIn?, typeIn?, hany]
    simp
  · rename_i m hany
    rw [contentIn?, typeIn?, hany]
    simp
  · -- no other message says anything
    rename_i hcontent hupgrade hcancel
    have hnone : contentIn? any = none := by
      unfold contentIn?
      split
      · rename_i m hany
        exact (hcontent m hany).elim
      · rfl
    have hnone' : typeIn? any = none := by
      unfold typeIn?
      split
      · rename_i m hany
        exact (hcontent m hany).elim
      · rename_i m hany
        exact (hupgrade m hany).elim
      · rename_i m hany
        exact (hcancel m hany).elim
      · rfl
    simp [hnone, hnone']

theorem foldl_add (messages : List Any) (summary : Summary) :
    messages.foldl Summary.add summary =
      { proposalType := (messages.filterMap typeIn?).getLast?.getD summary.proposalType
        title := firstText (summary.title :: (contentsIn messages).map (·.title))
        description := firstText (summary.description :: (contentsIn messages).map (·.description))
        changes :=
          ((contentsIn messages).filterMap (·.changes)).getLast? <|> summary.changes } := by
  induction messages generalizing summary with
  | nil => simp [contentsIn]
  | cons any messages ih =>
    have hcontents : contentsIn (any :: messages) =
        (contentIn? any).toList ++ contentsIn messages := by
      rw [contentsIn, List.filterMap_cons]
      cases contentIn? any <;> rfl
    rw [List.foldl_cons, ih, Summary.add_eq, hcontents, Summary.mk.injEq]
    refine ⟨?_, ?_, ?_, ?_⟩
    · rw [List.getLast?_filterMap_cons]
      cases (messages.filterMap typeIn?).getLast? <;> simp
    · rw [List.map_append, ← List.cons_append, firstText_append]
    · rw [List.map_append, ← List.cons_append, firstText_append]
    · rw [List.filterMap_append, List.getLast?_append]
      cases contentIn? any with
      | none => simp
      | some said =>
        cases ((contentsIn messages).filterMap (·.changes)).getLast? with
        | some changes => simp
        | none => cases hchanges : said.changes <;> simp [hchanges]

/-! ### The proposal -/

/-- A proposal is what its message and the messages in it say of it. -/
structure Summarizes (settings : Settings) (m : MsgSubmitProposal) (p : Record.Proposal) :
    Prop where
  title : p.title = firstText (m.title :: (contentsIn m.messages).map (·.title))
  description : p.description =
    firstText (m.summary :: (contentsIn m.messages).map (·.description) ++
      [String.intercalate "\n" (linesOf m.messages)])
  description_ne : m.messages ≠ [] → p.description ≠ ""
  proposalType : p.proposalType = (m.messages.filterMap typeIn?).getLast?.getD
    (if m.messages = [] then .text else .messages)
  changes : ∃ entries,
    List.Forall₂ (Entry settings settings.maxNestingDepth.toNat) m.messages entries ∧
      p.changes = (((contentsIn m.messages).filterMap (·.changes)).getLast? <|>
        if m.messages = [] then none
        else
          some (.array (entries.map fun entry ↦
            .object [("type_url", .string entry.typeUrl), ("data", .object entry.data)])))

theorem describeMessages_eq (messages : List Any) :
    describeMessages messages = String.intercalate "\n" (linesOf messages) := by
  rw [describeMessages]
  congr 1
  -- the lines are counted from one on
  refine List.ext_getElem (by simp [linesOf]) fun i h h' ↦ ?_
  simp [linesOf, Nat.add_comm]

/-- A line has a point in it, and so have all of them together. -/
theorem intercalate_linesOf_ne {messages : List Any} (h : messages ≠ []) :
    String.intercalate "\n" (linesOf messages) ≠ "" := by
  obtain ⟨any, messages, rfl⟩ := List.exists_cons_of_ne_nil h
  rw [linesOf, List.mapIdx_cons]
  have hline (rest : String) : toString (0 + 1) ++ ". " ++ any.typeUrl ++ rest ≠ "" := fun heq ↦ by
    simpa [String.length_append] using congrArg String.length heq
  cases messages.mapIdx fun i any ↦ toString (i + 1 + 1) ++ ". " ++ any.typeUrl with
  | nil => simp
  | cons line lines =>
    rw [String.intercalate_cons_cons, String.append_assoc]
    exact hline _

theorem firstText_eq_empty_iff {texts : List String} :
    firstText texts = "" ↔ ∀ text ∈ texts, text = "" := by
  unfold firstText
  cases h : texts.find? (· ≠ "") with
  | none => simpa using h
  | some text =>
    have htext : text ≠ "" := by simpa using List.find?_some h
    simp only [Option.getD_some, htext, false_iff, not_forall]
    exact ⟨text, List.mem_of_find?_eq_some h, htext⟩

theorem forall₂_entry_nested (d : Decoder) (block : Block) (position : Nat) (status : Status)
    (messages : List Any) :
    List.Forall₂ (Entry d.settings d.settings.maxNestingDepth.toNat) messages
      (messages.map (outermost d block position status).nested) := by
  rw [List.forall₂_map_right_iff, List.forall₂_same]
  exact fun any _ ↦ entry_nestedAt d block position status _ any

/-- What is gathered message by message, said of the whole list. -/
theorem summarize_eq (m : MsgSubmitProposal) :
    summarize m =
      { proposalType := (m.messages.filterMap typeIn?).getLast?.getD
          (if m.messages = [] then .text else .messages)
        title := firstText (m.title :: (contentsIn m.messages).map (·.title))
        description := firstText (m.summary :: (contentsIn m.messages).map (·.description))
        changes := ((contentsIn m.messages).filterMap (·.changes)).getLast? } := by
  rw [summarize, foldl_add]
  simp [List.isEmpty_iff]

theorem summarizes_of_submitted {d : Decoder} {block : Block} {position : Nat} {status : Status}
    {m : MsgSubmitProposal} {p : Record.Proposal}
    (h : submitted (outermost d block position status) m = .ok p) :
    Summarizes d.settings m p := by
  rw [submitted] at h
  obtain ⟨deposit, -, hp⟩ := bind_eq_ok_iff.1 h
  obtain rfl := Except.ok.inj hp
  have hdescription : orElseText (summarize m).description (describeMessages m.messages) =
      firstText (m.summary :: (contentsIn m.messages).map (·.description) ++
        [String.intercalate "\n" (linesOf m.messages)]) := by
    rw [firstText_append, firstText_pair, describeMessages_eq, summarize_eq]
  refine ⟨congrArg Summary.title (summarize_eq m), hdescription, fun hne heq ↦ ?_,
    congrArg Summary.proposalType (summarize_eq m), _,
    forall₂_entry_nested d block position status m.messages, ?_⟩
  · have hempty := firstText_eq_empty_iff.1 (hdescription.symm.trans heq)
    exact intercalate_linesOf_ne hne (hempty _ (by simp))
  · dsimp only
    rw [summarize_eq, messageChanges, List.map_map]
    simp only [List.isEmpty_iff]
    rfl

/-- **A proposal is the summary of its messages.** If the message that submits it is recorded, and
executed, the record has a proposal. Its title and its description are the first texts that are not
empty, of its own text and those of the contents that its messages execute, in order; a description
that is still open is a line for each message, and so there is one if there is a message. The type
is the last one that a message gives, and the changes are the last ones that a content has. If there
are none, they are an entry for each message, in order. -/
theorem proposal_summarizes (d : Decoder) (block : Block) (position : Nat) (m : MsgSubmitProposal)
    (r : Record.Message)
    (h : Message.record d block (.known (.gov .submitProposal) m) position .success = .ok r) :
    ∃ p, r.entities.proposal = some p ∧ Summarizes d.settings m p := by
  obtain ⟨found, hfound, rfl⟩ := Message.recordIn_eq_ok_iff.1 h
  obtain ⟨p, hp, hok⟩ := bind_eq_ok_iff.1 hfound
  obtain rfl := Except.ok.inj hok
  exact ⟨p, rfl, summarizes_of_submitted hp⟩

/-- A proposal without texts of its own that does three things: one of no known type, one that has a
content executed, and one that gives the proposal another type. -/
def mixedProposal : MsgSubmitProposal where
  messages := [⟨"/unknown", [1]⟩, executing LegacyGov.shorterUnbonding "authority",
    ⟨"/cosmos.upgrade.v1beta1.MsgCancelUpgrade", []⟩]
  initialDeposit := [⟨"utia", "100"⟩]
  proposer := "proposer"
  metadata := ""
  title := ""
  summary := ""
  expedited := false

/-- The texts of the mixed proposal are those of the content, and its type is the last one. -/
theorem proposal_summarizes_mixed :
    ∃ r p, Message.record {} ⟨7, ⟨0, 0⟩⟩ (.known (.gov .submitProposal) mixedProposal) 1 .success =
        .ok r ∧
      r.entities.proposal = some p ∧ Summarizes {} mixedProposal p ∧
      p.title = "Shorter unbonding" ∧ p.description = "Fourteen days" ∧
      p.proposalType = .cancelSoftwareUpgrade := by
  obtain ⟨r, hr⟩ : ∃ r, Message.record {} ⟨7, ⟨0, 0⟩⟩
      (.known (.gov .submitProposal) mixedProposal) 1 .success = .ok r :=
    not_fails_iff.1 (by decide +kernel)
  obtain ⟨p, hp, hsum⟩ := proposal_summarizes {} ⟨7, ⟨0, 0⟩⟩ 1 mixedProposal r hr
  have htitles : (contentsIn mixedProposal.messages).map (·.title) = ["Shorter unbonding"] := by
    decide +kernel
  have hdescriptions : (contentsIn mixedProposal.messages).map (·.description) =
      ["Fourteen days"] := by
    decide +kernel
  have htypes : mixedProposal.messages.filterMap typeIn? =
      [.paramChanged, .cancelSoftwareUpgrade] := by
    decide +kernel
  refine ⟨r, p, hr, hp, hsum, ?_, ?_, ?_⟩
  · rw [hsum.title, htitles]
    rfl
  · rw [hsum.description, hdescriptions]
    rfl
  · rw [hsum.proposalType, htypes]
    rfl

end ChainRecord.Gov
