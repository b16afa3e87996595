import ChainRecord.Proofs.LosslessRecord
import ChainRecord.Proofs.SideData

/-!
# Names of wrapped messages

In a list of wrapped messages two sorts of names stand side by side: a message that is known has the
name of its tag, and any other has its type URL, which whoever sends it may choose. The names of
tags differ from each other (`Tag.ofName?_eq_some_iff`) and from the URLs in the table
(`Message.Kind.typeUrl_ne_name`), so a known message is always told by its name. A name of a tag
need not be that of a known message, because a URL that is not in the table may be spelled like it;
and that is the only other way to come by it (`ofName?_internalName_iff`).

Entries in packets and proposals have a tag of their own, which no spelling has a say in. Where it
is that of a known message, the name is the same (`internalName_of_nestedAt`).
-/

namespace ChainRecord

open Reading

/-! ### Tags and URLs -/

namespace Tag

theorem mem_all (tag : Tag) : tag ∈ all := by
  cases tag <;> decide

theorem nodup_name : (all.map name).Nodup := by
  decide +kernel

/-- A tag is known by its name. -/
theorem name_injective : Function.Injective name := fun tag tag' ↦
  List.inj_on_of_nodup_map nodup_name tag.mem_all tag'.mem_all

/-- A name is that of one tag. -/
theorem ofName?_eq_some_iff {text : String} {tag : Tag} :
    ofName? text = some tag ↔ tag.name = text := by
  constructor
  · intro h
    simpa using List.find?_some h
  · rintro rfl
    cases hfound : ofName? tag.name with
    | none => exact absurd (decide_eq_true rfl) (List.find?_eq_none.1 hfound tag tag.mem_all)
    | some tag' =>
      have hname : tag'.name = tag.name := by simpa using List.find?_some hfound
      rw [name_injective hname]

theorem head?_name (tag : Tag) : tag.name.toByteArray.data.toList.head? = some 77 := by
  have hall : ∀ tag ∈ all, tag.name.toByteArray.data.toList.head? = some 77 := by decide +kernel
  exact hall tag tag.mem_all

end Tag

namespace Message

theorem Kind.head?_typeUrl (kind : Kind) :
    kind.typeUrl.toByteArray.data.toList.head? = some 47 := by
  have hall : ∀ kind ∈ all, kind.typeUrl.toByteArray.data.toList.head? = some 47 := by
    decide +kernel
  exact hall kind kind.mem_all

/-- No URL in the table is the name of a tag. -/
theorem Kind.typeUrl_ne_name (kind : Kind) (tag : Tag) : kind.typeUrl ≠ tag.name := by
  intro h
  -- a URL begins with a slash
  have hhead := kind.head?_typeUrl
  rw [h, tag.head?_name] at hhead
  exact absurd hhead (by decide)

/-- A wrapped message is known, and its kind has the tag. -/
def IsTagged (any : Any) (tag : Tag) : Prop :=
  ∃ (kind : Kind) (body : kind.Body), ofAny any = .ok (.known kind body) ∧ kind.tag = tag

/-- A message whose type is spelled like a tag is unknown, whatever its bytes are. -/
theorem ofAny_of_typeUrl_eq_name {any : Any} {tag : Tag} (h : any.typeUrl = tag.name) :
    ofAny any = .ok (.unknown any) :=
  ofAny_of_typeUrl_ne fun kind hurl ↦ kind.typeUrl_ne_name tag (hurl.trans h)

theorem IsTagged.ne_unknown {any : Any} {tag : Tag} (h : IsTagged any tag) : tag ≠ .unknown := by
  obtain ⟨kind, body, -, rfl⟩ := h
  exact kind.tag_ne_unknown

end Message

/-! ### Names -/

namespace Reading

open Message

variable {any : Any} {tag : Tag}

theorem internalName_of_isTagged (h : IsTagged any tag) : internalName any = tag.name := by
  obtain ⟨kind, body, hany, rfl⟩ := h
  rw [internalName, hany]

/-- A message that is not known is named by its type. -/
theorem isTagged_or_internalName_eq (any : Any) :
    (∃ tag, IsTagged any tag) ∨ internalName any = any.typeUrl := by
  rw [internalName]
  cases hany : ofAny any with
  | error fault => exact Or.inr rfl
  | ok message =>
    cases message with
    | known kind body => exact Or.inl ⟨kind.tag, kind, body, hany, rfl⟩
    | unknown _ => exact Or.inr rfl

/-- A message whose type is spelled like a tag is named by its type. -/
theorem internalName_of_typeUrl_eq_name (h : any.typeUrl = tag.name) :
    internalName any = any.typeUrl := by
  rw [internalName, ofAny_of_typeUrl_eq_name h]

/-- A name is that of a tag where the message is known and has the tag, or where its type is spelled
like the tag. -/
theorem ofName?_internalName_iff :
    Tag.ofName? (internalName any) = some tag ↔ IsTagged any tag ∨ any.typeUrl = tag.name := by
  rw [Tag.ofName?_eq_some_iff]
  constructor
  · intro hname
    rcases isTagged_or_internalName_eq any with ⟨tag', htag'⟩ | hurl
    · have hsame : tag = tag' := Tag.name_injective (hname.trans (internalName_of_isTagged htag'))
      exact Or.inl (hsame ▸ htag')
    · exact Or.inr (hurl.symm.trans hname.symm)
  · rintro (htag | hurl)
    · exact (internalName_of_isTagged htag).symm
    · exact hurl.symm.trans (internalName_of_typeUrl_eq_name hurl).symm

section

variable (d : Decoder) (block : Block) (position : Nat) (status : Status)

/-- The tag of an entry is that of unknown messages, or that of the message. -/
theorem isTagged_nestedAt (levels : Nat) (any : Any) :
    (nestedAt d block position status levels any).tag = .unknown ∨
      IsTagged any (nestedAt d block position status levels any).tag := by
  obtain ⟨message, habout, hentry⟩ :=
    exists_isAbout_nestedAt d block position status levels any
  rw [hentry]
  rcases habout with rfl | hany
  · exact Or.inl rfl
  · cases message with
    | unknown _ => exact Or.inl rfl
    | known kind body => exact Or.inr ⟨kind, body, hany, rfl⟩

/-- Where an entry has a tag of known messages, the name is that of the tag. -/
theorem internalName_of_nestedAt {levels : Nat}
    (h : (nestedAt d block position status levels any).tag ≠ .unknown) :
    internalName any = (nestedAt d block position status levels any).tag.name :=
  internalName_of_isTagged
    ((isTagged_nestedAt d block position status levels any).resolve_left h)

end

end Reading

/-! ### Lists of names -/

namespace Message

/-- Only messages that wrap others list names, and they list one for each. -/
theorem internalMessages_of_read {scope : Scope} {message : Message} {found : Findings}
    (h : message.read scope = .ok found) :
    found.internalMessages = [] ∨
      ∃ anys, Wraps message anys ∧ found.internalMessages = anys.map internalName := by
  by_cases hempty : found.internalMessages = []
  · exact Or.inl hempty
  · have hkind := (message.read_belongTo found h).internalMessages hempty
    have hwraps : ∃ anys, Wraps message anys := by
      cases message with
      | unknown any => exact absurd hkind (by simp [kind?])
      | known kind body =>
        simp only [kind?, Option.some.injEq] at hkind
        rcases hkind with rfl | rfl
        · exact ⟨_, .exec body⟩
        · exact ⟨_, .submitProposal body⟩
    obtain ⟨anys, hanys⟩ := hwraps
    exact Or.inr ⟨anys, hanys, hanys.internalMessages_eq h⟩

/-- A name in a list stands for the wrapped message at its place. -/
theorem exists_wraps_of_record {d : Decoder} {block : Block} {position : Nat} {status : Status}
    {message : Message} {r : Record.Message} (h : message.record d block position status = .ok r)
    {i : Nat} {name : String} (hname : r.internalMessages[i]? = some name) :
    ∃ anys any, Wraps message anys ∧ anys[i]? = some any ∧ internalName any = name := by
  obtain ⟨found, hfound, rfl⟩ := recordIn_eq_ok_iff.1 h
  have hlisted : found.internalMessages[i]? = some name := hname
  rcases internalMessages_of_read hfound with hempty | ⟨anys, hanys, hnames⟩
  · rw [hempty] at hlisted
    cases hlisted
  · rw [hnames, List.getElem?_map] at hlisted
    obtain ⟨any, hany, hsame⟩ := Option.map_eq_some_iff.1 hlisted
    exact ⟨anys, any, hanys, hany, hsame⟩

/-- **A name of a tag is that of a known message, or is spelled by the sender.** The name of a
wrapped message is that of a tag exactly if the message is known and has the tag, or if its type is
spelled like the tag, and then it is unknown and named by its type. A known message has the name of
its tag, which is not that of unknown messages; so where an entry has such a tag, the name agrees.
And a name of a tag in the list of a record stands for a wrapped message that has the tag, or whose
type is that name. -/
theorem internalName_isTag_iff (d : Decoder) (block : Block) (position : Nat) (status : Status) :
    (∀ (any : Any) (tag : Tag), Tag.ofName? (internalName any) = some tag ↔
      IsTagged any tag ∨ any.typeUrl = tag.name) ∧
    (∀ (any : Any) (tag : Tag), any.typeUrl = tag.name →
      ofAny any = .ok (.unknown any) ∧ internalName any = any.typeUrl) ∧
    (∀ (any : Any) (tag : Tag), IsTagged any tag → internalName any = tag.name ∧ tag ≠ .unknown) ∧
    (∀ (levels : Nat) (any : Any),
      (nestedAt d block position status levels any).tag ≠ .unknown →
      internalName any = (nestedAt d block position status levels any).tag.name) ∧
    ∀ (message : Message) (r : Record.Message),
      message.record d block position status = .ok r →
      ∀ (i : Nat) (name : String) (tag : Tag), r.internalMessages[i]? = some name →
        Tag.ofName? name = some tag →
        ∃ (anys : List Any) (any : Any), Wraps message anys ∧ anys[i]? = some any ∧
          (IsTagged any tag ∨ any.typeUrl = name) := by
  refine ⟨fun any tag ↦ ofName?_internalName_iff, fun any tag hurl ↦ ?_, ?_, ?_, ?_⟩
  · exact ⟨ofAny_of_typeUrl_eq_name hurl, internalName_of_typeUrl_eq_name hurl⟩
  · intro any tag htag
    exact ⟨internalName_of_isTagged htag, htag.ne_unknown⟩
  · intro levels any htag
    exact internalName_of_nestedAt d block position status htag
  · intro message r hr i name tag hname htag
    obtain ⟨anys, any, hanys, hany, rfl⟩ := exists_wraps_of_record hr hname
    refine ⟨anys, any, hanys, hany, (ofName?_internalName_iff.1 htag).imp_right fun hurl ↦ ?_⟩
    rw [hurl, Tag.ofName?_eq_some_iff.1 htag]

/-- A message whose type is spelled like the tag of a transfer. -/
def lookalikeSend : Any := ⟨"MsgSend", []⟩

/-- A vote, and what is spelled like a transfer, to be executed by permission. -/
def lookalikeExec : Message :=
  .known (.authz .exec) ⟨"grantee", [shortVote, lookalikeSend]⟩

/-- Both wrapped messages are listed by the name of a tag. The first is a vote and has an entry with
that tag. The second is unknown, and its type is the name. -/
theorem internalName_isTag_iff_lookalike :
    ∃ r, lookalikeExec.record {} ⟨100, ⟨1700000000, 0⟩⟩ 0 .success = .ok r ∧
      r.internalMessages = ["MsgVote", "MsgSend"] ∧
      Tag.ofName? (internalName shortVote) = some .vote ∧
      (nestedAt {} ⟨100, ⟨1700000000, 0⟩⟩ 0 .success 1 shortVote).tag.name =
        internalName shortVote ∧
      ofAny lookalikeSend = .ok (.unknown lookalikeSend) ∧
      internalName lookalikeSend = "MsgSend" ∧
      ∃ anys any, Wraps lookalikeExec anys ∧ anys[1]? = some any ∧
        (IsTagged any .send ∨ any.typeUrl = "MsgSend") := by
  obtain ⟨hname, hunknown, htagged, hentry, hlisted⟩ :=
    internalName_isTag_iff {} ⟨100, ⟨1700000000, 0⟩⟩ 0 .success
  have hvote : IsTagged shortVote .vote := ⟨.gov .vote, _, ofAny_shortVote, rfl⟩
  obtain ⟨hsend, hspelled⟩ := hunknown lookalikeSend .send rfl
  have hnames : [shortVote, lookalikeSend].map internalName = ["MsgVote", "MsgSend"] := by
    rw [List.map_cons, List.map_singleton, (htagged _ _ hvote).1, hspelled]
    rfl
  have htag : (nestedAt {} ⟨100, ⟨1700000000, 0⟩⟩ 0 .success 1 shortVote).tag = .vote := by
    rw [nestedAt, ofAny_shortVote]
    rfl
  refine ⟨_, rfl, hnames, (hname _ _).2 (Or.inl hvote), ?_, hsend, hspelled, ?_⟩
  · exact (hentry 1 shortVote (by rw [htag]; exact hvote.ne_unknown)).symm
  · exact hlisted lookalikeExec _ rfl 1 "MsgSend" .send (congrArg (·[1]?) hnames)
      (Tag.ofName?_eq_some_iff.2 rfl)

/-- An unknown message has the name of a tag. -/
theorem internalName_lookalikeSend :
    ofAny lookalikeSend = .ok (.unknown lookalikeSend) ∧
      Tag.ofName? (internalName lookalikeSend) = some .send :=
  ⟨@ofAny_of_typeUrl_eq_name lookalikeSend .send rfl, ofName?_internalName_iff.2 (Or.inr rfl)⟩

end Message

end ChainRecord
