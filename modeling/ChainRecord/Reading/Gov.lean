import ChainRecord.Reading.Scope

/-!
# Reading messages of governance

Both generations of governance submit proposals, and both are recorded in the same way. A proposal
of the first generation has a content of a type; a proposal of the second executes messages, one of
which may in turn execute such a content. What a content says of the proposal is therefore read in
one place.
-/

namespace ChainRecord.LegacyGov

open Reading

/-- What a content says of its proposal. -/
structure Content where
  proposalType : Record.ProposalType := .text
  title : String := ""
  description : String := ""
  changes : Option Json := none

/-- The content in bytes of a given type, if they are one. -/
def contentOf? (any : Any) : Option Content :=
  if any.typeUrl = "/cosmos.gov.v1beta1.TextProposal" then
    (TextProposal.shape.decode any.value).toOption.map fun c ↦
      { proposalType := .text, title := c.title, description := c.description }
  else if any.typeUrl = "/cosmos.params.v1beta1.ParameterChangeProposal" then
    (ParameterChangeProposal.shape.decode any.value).toOption.map fun c ↦
      { proposalType := .paramChanged
        title := c.title
        description := c.description
        changes := some (.array (c.changes.map fun p ↦ .object (ParamChange.shape.fieldMap p))) }
  else if any.typeUrl = "/cosmos.distribution.v1beta1.CommunityPoolSpendProposal" then
    (Distribution.CommunityPoolSpendProposal.shape.decode any.value).toOption.map fun c ↦
      { proposalType := .communityPoolSpend
        title := c.title
        description := c.description
        changes := some (.object
          [("recipient", .string c.recipient),
            ("amount", .array (c.amount.map fun coin ↦ .object (Coin.shape.fieldMap coin)))]) }
  else if any.typeUrl = "/ibc.core.client.v1.ClientUpdateProposal" then
    (IbcClient.ClientUpdateProposal.shape.decode any.value).toOption.map fun c ↦
      { proposalType := .clientUpdate
        title := c.title
        description := c.description
        changes := some (.object
          [("subject_client_id", .string c.subjectClientId),
            ("substitute_client_id", .string c.substituteClientId)]) }
  else if any.typeUrl = "/cosmos.upgrade.v1beta1.SoftwareUpgradeProposal" then
    (Upgrade.SoftwareUpgradeProposal.shape.decode any.value).toOption.map fun c ↦
      { proposalType := .softwareUpgrade
        title := c.title
        description := c.description
        changes := c.plan.map fun plan ↦ .object (Upgrade.Plan.shape.fieldMap plan) }
  else if any.typeUrl = "/cosmos.upgrade.v1beta1.CancelSoftwareUpgradeProposal" then
    (Upgrade.CancelSoftwareUpgradeProposal.shape.decode any.value).toOption.map fun c ↦
      { proposalType := .cancelSoftwareUpgrade, title := c.title, description := c.description }
  else none

/-- The proposal that a message submits. A content that is none is an empty text. -/
def submitted (scope : Scope) (m : MsgSubmitProposal) : Except Inconsistency Record.Proposal := do
  let content := (m.content.bind contentOf?).getD {}
  let deposit ← nativeAmount scope.settings m.initialDeposit
  .ok
    { height := scope.block.height
      proposer := m.proposer
      createdAt := scope.block.time
      proposalType := content.proposalType
      title := content.title
      description := content.description
      metadata := ""
      deposit
      changes := content.changes
      expedited := false }

/-- Reads a message. -/
def read (scope : Scope) : (kind : Kind) → kind.Body → Except Inconsistency Findings
  | .submitProposal, m => do
    let proposal ← submitted scope m
    .ok
      { addresses := scope.addresses [(.proposer, m.proposer)]
        entities := { proposal := some proposal } }
  | .vote, m => .ok (scope.only [(.voter, m.voter)])
  | .voteWeighted, m => .ok (scope.only [(.voter, m.voter)])
  | .deposit, m => .ok (scope.only [(.depositor, m.depositor)])

end ChainRecord.LegacyGov

namespace ChainRecord.Gov

open Reading

/-- What has been gathered of a proposal from its own texts and the messages so far. -/
structure Summary where
  proposalType : Record.ProposalType
  title : String
  description : String
  changes : Option Json := none

/-- The first of two texts that is not empty. -/
def orElseText (first second : String) : String :=
  if first.isEmpty then second else first

/-- What a message adds. The last message that has a type of its own decides on the type, and the
last content with changes on the changes; texts only fill what is empty. -/
def Summary.add (summary : Summary) (any : Any) : Summary :=
  match Message.ofAny any with
  | .ok (.known (.gov .execLegacyContent) m) =>
    match m.content.bind LegacyGov.contentOf? with
    | none => summary
    | some content =>
      { proposalType := content.proposalType
        title := orElseText summary.title content.title
        description := orElseText summary.description content.description
        changes := content.changes <|> summary.changes }
  | .ok (.known (.upgrade .softwareUpgrade) _) =>
    { summary with proposalType := .softwareUpgrade }
  | .ok (.known (.upgrade .cancelUpgrade) _) =>
    { summary with proposalType := .cancelSoftwareUpgrade }
  | _ => summary

/-- One numbered line for each message, which describes a proposal that has no description. -/
def describeMessages (messages : List Any) : String :=
  String.intercalate "\n"
    ((messages.zipIdx 1).map fun (any, i) ↦ toString i ++ ". " ++ any.typeUrl)

/-- The record of a wrapped message among the changes of a proposal. -/
def nestedChange (message : Record.NestedMessage) : Json :=
  .object [("type_url", .string message.typeUrl), ("data", .object message.data)]

/-- The changes of a proposal whose messages name none: the messages themselves, if there are
any. -/
def messageChanges (scope : Scope) (messages : List Any) : Option Json :=
  if messages.isEmpty then none
  else some (.array (messages.map fun any ↦ nestedChange (scope.nested any)))

/-- What is gathered of a proposal from its own texts and all messages. -/
def summarize (m : MsgSubmitProposal) : Summary :=
  m.messages.foldl Summary.add
    { proposalType := if m.messages.isEmpty then .text else .messages
      title := m.title
      description := m.summary }

/-- The proposal that a message submits. -/
def submitted (scope : Scope) (m : MsgSubmitProposal) : Except Inconsistency Record.Proposal := do
  let deposit ← nativeAmount scope.settings m.initialDeposit
  let summary := summarize m
  .ok
    { height := scope.block.height
      proposer := m.proposer
      createdAt := scope.block.time
      proposalType := summary.proposalType
      title := summary.title
      description := orElseText summary.description (describeMessages m.messages)
      metadata := m.metadata
      deposit
      changes := summary.changes <|> messageChanges scope m.messages
      expedited := m.expedited }

/-- Reads a message. -/
def read (scope : Scope) : (kind : Kind) → kind.Body → Except Inconsistency Findings
  | .submitProposal, m => do
    let proposal ← submitted scope m
    .ok
      { addresses := scope.addresses [(.proposer, m.proposer)]
        internalMessages := m.messages.map internalName
        entities := { proposal := some proposal } }
  | .execLegacyContent, m => .ok (scope.only [(.authority, m.authority)])
  | .vote, m => .ok (scope.only [(.voter, m.voter)])
  | .voteWeighted, m => .ok (scope.only [(.voter, m.voter)])
  | .deposit, m => .ok (scope.only [(.depositor, m.depositor)])
  | .cancelProposal, m => .ok (scope.only [(.proposer, m.proposer)])

end ChainRecord.Gov
