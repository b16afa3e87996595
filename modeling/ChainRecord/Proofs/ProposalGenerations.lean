import ChainRecord.Proofs.Registry
import ChainRecord.Proofs.Stamp

/-!
# The two generations of governance

A content of the first generation can be proposed in either generation. In the first it stands in
the message that submits the proposal; in the second that message has another one executed, in the
canonical form of which the content stands. The detour leads through the table of messages and
through what is gathered of all messages of a proposal, and all that comes of it is that the content
is filled where it leaves something open (`Gov.submitted_submitting`). A content that leaves nothing
open is recorded alike in both generations (`Message.record_generations`).
-/

namespace ChainRecord

open Reading

/-! ### The first generation -/

namespace LegacyGov

/-- The proposal of a content. -/
def Content.proposal (said : Content) (scope : Scope) (proposer : String) (deposit : Decimal) :
    Record.Proposal where
  height := scope.block.height
  proposer := proposer
  createdAt := scope.block.time
  proposalType := said.proposalType
  title := said.title
  description := said.description
  metadata := ""
  deposit := deposit
  changes := said.changes
  expedited := false

theorem submitted_of_contentOf? (scope : Scope) {content : Any} {said : Content}
    (hcontent : contentOf? content = some said) (deposit : List Coin) (proposer : String) :
    submitted scope ⟨some content, deposit, proposer⟩ =
      (nativeAmount scope.settings deposit).map (said.proposal scope proposer) := by
  rw [submitted]
  dsimp only
  rw [Option.bind_some, hcontent]
  cases nativeAmount scope.settings deposit with
  | error cause => rfl
  | ok amount => rfl

end LegacyGov

/-! ### The second generation -/

namespace Gov

variable {content : Any} {said : LegacyGov.Content} {authority : String}

/-- A message that executes a content, in its canonical form. -/
def executing (content : Any) (authority : String) : Any where
  typeUrl := "/cosmos.gov.v1.MsgExecLegacyContent"
  value := MsgExecLegacyContent.shape.encode ⟨some content, authority⟩

/-- The message that submits nothing but a content, without texts of its own. -/
def submitting (content : Any) (authority : String) (deposit : List Coin) (proposer : String) :
    MsgSubmitProposal where
  messages := [executing content authority]
  initialDeposit := deposit
  proposer := proposer
  metadata := ""
  title := ""
  summary := ""
  expedited := false

/-- What a content says, with a description and changes made of the message that executes it where
it has none. -/
def filled (scope : Scope) (any : Any) (said : LegacyGov.Content) : LegacyGov.Content :=
  { said with
    description := orElseText said.description (describeMessages [any])
    changes := said.changes <|> messageChanges scope [any] }

theorem orElseText_of_ne {first : String} (h : first ≠ "") (second : String) :
    orElseText first second = first := by
  have hempty : ¬ first.isEmpty = true := by simpa [String.isEmpty_iff] using h
  rw [orElseText, if_neg hempty]

@[simp]
theorem orElseText_empty (text : String) : orElseText "" text = text := rfl

theorem describeMessages_singleton (any : Any) :
    describeMessages [any] = "1. " ++ any.typeUrl := rfl

/-- Nothing is filled exactly where nothing is left open. -/
theorem filled_eq_self_iff (scope : Scope) (any : Any) (said : LegacyGov.Content) :
    filled scope any said = said ↔ said.description ≠ "" ∧ said.changes ≠ none := by
  constructor
  · intro h
    have hdescription : orElseText said.description (describeMessages [any]) = said.description :=
      congrArg LegacyGov.Content.description h
    have hchanges : (said.changes <|> messageChanges scope [any]) = said.changes :=
      congrArg LegacyGov.Content.changes h
    constructor
    · intro hempty
      rw [hempty, orElseText_empty, describeMessages_singleton] at hdescription
      exact absurd (congrArg String.length hdescription) (by simp)
    · intro hnone
      rw [hnone] at hchanges
      exact absurd hchanges (by simp [messageChanges])
  · rintro ⟨hdescription, hchanges⟩
    obtain ⟨changes, hchanges⟩ := Option.ne_none_iff_exists'.1 hchanges
    rw [filled, orElseText_of_ne hdescription, hchanges, Option.orElse_eq_orElse,
      Option.orElse_some, ← hchanges]

/-- What executes a content adds what the content says. -/
theorem Summary.add_executing (summary : Summary)
    (hcontent : LegacyGov.contentOf? content = some said)
    (hsize : (executing content authority).value.length < 2 ^ 64) :
    summary.add (executing content authority) =
      { proposalType := said.proposalType
        title := orElseText summary.title said.title
        description := orElseText summary.description said.description
        changes := said.changes <|> summary.changes } := by
  have hany : Message.ofAny (executing content authority) =
      .ok (.known (.gov .execLegacyContent) ⟨some content, authority⟩) :=
    @Message.ofAny_encode (.gov .execLegacyContent) ⟨some content, authority⟩ hsize
  rw [Summary.add, hany]
  dsimp only
  rw [Option.bind_some, hcontent]

/-- Of a proposal without texts of its own all is gathered from the content. -/
theorem summarize_submitting (hcontent : LegacyGov.contentOf? content = some said)
    (hsize : (executing content authority).value.length < 2 ^ 64) (deposit : List Coin)
    (proposer : String) :
    summarize (submitting content authority deposit proposer) =
      ⟨said.proposalType, said.title, said.description, said.changes⟩ := by
  rw [summarize, submitting, List.foldl_cons, List.foldl_nil,
    Summary.add_executing _ hcontent hsize]
  simp

/-- A content that is executed becomes the proposal of the content, filled. -/
theorem submitted_submitting (scope : Scope) (hcontent : LegacyGov.contentOf? content = some said)
    (hsize : (executing content authority).value.length < 2 ^ 64) (deposit : List Coin)
    (proposer : String) :
    submitted scope (submitting content authority deposit proposer) =
      (nativeAmount scope.settings deposit).map
        ((filled scope (executing content authority) said).proposal scope proposer) := by
  rw [submitted, summarize_submitting hcontent hsize]
  dsimp only [submitting]
  cases nativeAmount scope.settings deposit with
  | error cause => rfl
  | ok amount => rfl

end Gov

/-! ### Both generations -/

/-- Where the content leaves nothing open, one proposal is found in both messages. -/
theorem Gov.read_submitting_alike (scope : Scope) {content : Any} {said : LegacyGov.Content}
    {authority : String} (hcontent : LegacyGov.contentOf? content = some said)
    (hdescription : said.description ≠ "") (hchanges : said.changes ≠ none)
    (hsize : (executing content authority).value.length < 2 ^ 64) (deposit : List Coin)
    (proposer : String) :
    Alike Eq
      (fun found found' ↦ found.addresses = found'.addresses ∧
        ∃ proposal, found.entities.proposal = some proposal ∧
          found'.entities.proposal = some proposal)
      (LegacyGov.read scope .submitProposal ⟨some content, deposit, proposer⟩)
      (Gov.read scope .submitProposal (submitting content authority deposit proposer)) := by
  have hsubmitted : submitted scope (submitting content authority deposit proposer) =
      LegacyGov.submitted scope ⟨some content, deposit, proposer⟩ := by
    rw [submitted_submitting scope hcontent hsize,
      LegacyGov.submitted_of_contentOf? scope hcontent,
      (filled_eq_self_iff scope _ said).2 ⟨hdescription, hchanges⟩]
  rw [LegacyGov.read, Gov.read, hsubmitted]
  exact Alike.bind_same _ fun proposal ↦ .ok ⟨rfl, proposal, rfl, rfl⟩

/-- Two records of one tag, of the same addresses, and of one proposal. -/
structure Record.Message.SameProposal (r r' : Record.Message) : Prop where
  tag : r.tag = r'.tag
  addresses : r.addresses = r'.addresses
  proposal : ∃ proposal, r.entities.proposal = some proposal ∧
    r'.entities.proposal = some proposal

/-- **Both generations of governance are recorded alike.** A content that has a description and
changes is proposed in either generation with one outcome: both messages are refused for the same
inconsistency, or both are recorded with one tag, the same addresses and the same proposal. -/
theorem Message.record_generations (d : Decoder) (block : Block) (position : Nat)
    (authority proposer : String) (deposit : List Coin) {content : Any} {said : LegacyGov.Content}
    (hcontent : LegacyGov.contentOf? content = some said) (hdescription : said.description ≠ "")
    (hchanges : said.changes ≠ none)
    (hsize : (Gov.executing content authority).value.length < 2 ^ 31) :
    Alike (fun e e' ↦ e.cause = e'.cause) Record.Message.SameProposal
      ((known (.legacyGov .submitProposal) ⟨some content, deposit, proposer⟩).record d block
        position .success)
      ((known (.gov .submitProposal) (Gov.submitting content authority deposit proposer)).record
        d block position .success) := by
  have hread := Gov.read_submitting_alike (outermost d block position .success) hcontent
    hdescription hchanges (hsize.trans (by decide)) deposit proposer
  rw [record, record, recordIn_eq, recordIn_eq]
  refine (hread.map fun found found' hfound ↦ ?_).mapError fun _ _ hcause ↦ hcause
  obtain ⟨haddresses, hproposal⟩ := hfound
  exact ⟨rfl, haddresses, hproposal⟩

/-- A proposal to shorten the time of unbonding. -/
def LegacyGov.shorterUnbonding : Any where
  typeUrl := "/cosmos.params.v1beta1.ParameterChangeProposal"
  value := ParameterChangeProposal.shape.encode
    ⟨"Shorter unbonding", "Fourteen days", [⟨"staking", "UnbondingTime", "1209600s"⟩]⟩

/-- With a deposit that is a number the change is proposed in both generations, and with one that is
none it is refused in both. -/
theorem Message.record_generations_shorterUnbonding :
    (∃ r r',
      (known (.legacyGov .submitProposal)
        ⟨some LegacyGov.shorterUnbonding, [⟨"utia", "100"⟩], "proposer"⟩).record
          {} ⟨7, ⟨0, 0⟩⟩ 1 .success = .ok r ∧
      (known (.gov .submitProposal)
        (Gov.submitting LegacyGov.shorterUnbonding "authority" [⟨"utia", "100"⟩] "proposer")).record
          {} ⟨7, ⟨0, 0⟩⟩ 1 .success = .ok r' ∧
      r.SameProposal r') ∧
    ∃ e e',
      (known (.legacyGov .submitProposal)
        ⟨some LegacyGov.shorterUnbonding, [⟨"utia", "1e2"⟩], "proposer"⟩).record
          {} ⟨7, ⟨0, 0⟩⟩ 1 .success = .error e ∧
      (known (.gov .submitProposal)
        (Gov.submitting LegacyGov.shorterUnbonding "authority" [⟨"utia", "1e2"⟩] "proposer")).record
          {} ⟨7, ⟨0, 0⟩⟩ 1 .success = .error e' ∧
      e.cause = e'.cause := by
  have hdecode : LegacyGov.ParameterChangeProposal.shape.decode LegacyGov.shorterUnbonding.value =
      .ok ⟨"Shorter unbonding", "Fourteen days", [⟨"staking", "UnbondingTime", "1209600s"⟩]⟩ :=
    Wire.Shape.decode_encode _ (by decide) _ (by decide +kernel)
  obtain ⟨said, hcontent, hdescription, hchanges⟩ :
      ∃ said, LegacyGov.contentOf? LegacyGov.shorterUnbonding = some said ∧
        said.description ≠ "" ∧ said.changes ≠ none := by
    rw [LegacyGov.contentOf?, hdecode]
    exact ⟨_, rfl, by decide, by simp⟩
  have hsize : (Gov.executing LegacyGov.shorterUnbonding "authority").value.length < 2 ^ 31 := by
    decide +kernel
  have halike (deposit : List Coin) := record_generations {} ⟨7, ⟨0, 0⟩⟩ 1 "authority" "proposer"
    deposit hcontent hdescription hchanges hsize
  exact ⟨(halike [⟨"utia", "100"⟩]).exists_ok (by decide +kernel),
    (halike [⟨"utia", "1e2"⟩]).exists_error (by decide +kernel)⟩

end ChainRecord
