import ChainRecord.Proofs.WrappedMessages

/-!
# The nesting limit

How many levels of wrapped messages may be read is a setting, and the only thing it decides is
whether any may be read at all (`Message.record_limit`). The entry of a wrapped message says which
message it is and nothing of what that message wraps in turn, and whether it is refused does not
depend on that either. So one level is as good as any number of them (`nestedAt_limit`).

With no level at all the entries of wrapped messages are left as they are. To see that nothing else
changes, one message is read with any two functions for the entries. What is found then differs in
the entries of its packet or in those of its proposal, item by item for the same wrapped messages,
and is equal in all other respects (`Message.read_nested`). No induction on levels is needed: an
entry takes from the level below only that there is one.
-/

namespace ChainRecord

open Reading

/-! ### Two functions for entries -/

namespace Message

variable {settings : Settings} {message : Message} {f g : Any → Record.NestedMessage}

/-- Two packets of one message, with entries by two functions. -/
inductive PacketDiffers (settings : Settings) (message : Message)
    (f g : Any → Record.NestedMessage) : Option Record.Packet → Option Record.Packet → Prop
  /-- The packet carries a transaction, whose messages have entries. -/
  | entries {transaction : Bytes} {packetType memo : String} :
      CarriesTransaction settings message transaction →
      PacketDiffers settings message f g
        (some (.interchainAccount packetType memo
          ((InterchainAccounts.messagesOf transaction).map f)))
        (some (.interchainAccount packetType memo
          ((InterchainAccounts.messagesOf transaction).map g)))
  /-- There is no transaction. -/
  | same {packet : Option Record.Packet} :
      (∀ transaction, ¬ CarriesTransaction settings message transaction) →
      PacketDiffers settings message f g packet packet

/-- Two proposals of one message, with entries by two functions. -/
inductive ProposalDiffers (message : Message) (f g : Any → Record.NestedMessage) :
    Option Record.Proposal → Option Record.Proposal → Prop
  /-- No content of the proposal has changes, so its messages have entries instead. -/
  | entries {m : Gov.MsgSubmitProposal} {proposal proposal' : Record.Proposal} :
      message = .known (.gov .submitProposal) m → (Gov.summarize m).changes = none →
      m.messages ≠ [] →
      proposal.changes = some (.array (m.messages.map fun any ↦ Gov.nestedChange (f any))) →
      proposal' = { proposal with
        changes := some (.array (m.messages.map fun any ↦ Gov.nestedChange (g any))) } →
      ProposalDiffers message f g (some proposal) (some proposal')
  /-- The changes are those of a content, if there are any. -/
  | same {proposal? : Option Record.Proposal} :
      (∀ m, message = .known (.gov .submitProposal) m →
        ∀ proposal ∈ proposal?, proposal.changes = (Gov.summarize m).changes) →
      ProposalDiffers message f g proposal? proposal?

end Message

/-- Two findings in one message are the same but for entries by two functions. -/
structure Reading.Findings.DifferInEntries (settings : Settings) (message : Message)
    (f g : Any → Record.NestedMessage) (found found' : Findings) : Prop where
  others : found' = { found with
    packet := found'.packet
    entities := { found.entities with proposal := found'.entities.proposal } }
  packet : message.PacketDiffers settings f g found.packet found'.packet
  proposal : message.ProposalDiffers f g found.entities.proposal found'.entities.proposal

/-- Two records of one message are the same but for entries by two functions. -/
structure Record.Message.DifferInEntries (settings : Settings) (message : ChainRecord.Message)
    (f g : Any → NestedMessage) (r r' : Record.Message) : Prop where
  others : r' = { r with
    packet := r'.packet
    entities := { r.entities with proposal := r'.entities.proposal } }
  packet : message.PacketDiffers settings f g r.packet r'.packet
  proposal : message.ProposalDiffers f g r.entities.proposal r'.entities.proposal

namespace Message

variable {settings : Settings} {message : Message} {f g : Any → Record.NestedMessage}

/-! ### Readers -/

/-- What has no entries is the same with other entries. -/
theorem differInEntries_refl
    (hpacket : ∀ transaction, ¬ CarriesTransaction settings message transaction)
    (hproposal : ∀ m, message ≠ .known (.gov .submitProposal) m) (found : Findings) :
    found.DifferInEntries settings message f g found :=
  ⟨rfl, .same hpacket, .same fun m h ↦ absurd h (hproposal m)⟩

/-- A proposal that is submitted has entries only for want of changes. -/
theorem submitted_nested (scope : Scope) (g : Any → Record.NestedMessage)
    (m : Gov.MsgSubmitProposal) :
    Alike Eq
      (fun p p' ↦ ProposalDiffers (.known (.gov .submitProposal) m) scope.nested g (some p)
        (some p'))
      (Gov.submitted scope m) (Gov.submitted { scope with nested := g } m) := by
  refine Alike.bind_same _ fun deposit ↦ .ok ?_
  dsimp only
  cases hchanges : (Gov.summarize m).changes with
  | some changes =>
    refine .same fun m' h proposal hproposal ↦ ?_
    obtain rfl : m = m' := by cases h; rfl
    cases hproposal
    exact hchanges.symm
  | none =>
    by_cases hmessages : m.messages = []
    · have hnone : ∀ scope : Scope, Gov.messageChanges scope m.messages = none :=
        fun _ ↦ by rw [hmessages]; rfl
      rw [hnone, hnone]
      refine .same fun m' h proposal hproposal ↦ ?_
      obtain rfl : m = m' := by cases h; rfl
      cases hproposal
      exact hchanges.symm
    · have hsome : ∀ scope : Scope, Gov.messageChanges scope m.messages =
          some (.array (m.messages.map fun any ↦ Gov.nestedChange (scope.nested any))) :=
        fun _ ↦ if_neg (by rwa [List.isEmpty_iff])
      rw [hsome, hsome]
      exact .entries rfl hchanges hmessages rfl rfl

theorem carriesTransaction_ibcChannel_iff {kind : IbcChannel.Kind} {m : kind.Body}
    {transaction : Bytes} :
    CarriesTransaction settings (.known (.ibcChannel kind) m) transaction ↔
      ∃ packet ∈ IbcChannel.packetOf? kind m, packet.destinationPort = settings.icaHostPort ∧
        InterchainAccounts.transactionIn? packet.data = some transaction := by
  constructor
  · rintro (_ | ⟨hpacket, hport, htransaction⟩)
    exact ⟨_, hpacket, hport, htransaction⟩
  · rintro ⟨packet, hpacket, hport, htransaction⟩
    exact .hostPacket hpacket hport htransaction

theorem carriesTransaction_iff_of_packet {kind : IbcChannel.Kind} {m : kind.Body}
    {packet : IbcChannel.Packet} (hpacket : IbcChannel.packetOf? kind m = some packet)
    {transaction : Bytes} :
    CarriesTransaction settings (.known (.ibcChannel kind) m) transaction ↔
      packet.destinationPort = settings.icaHostPort ∧
        InterchainAccounts.transactionIn? packet.data = some transaction := by
  rw [carriesTransaction_ibcChannel_iff, hpacket]
  exact ⟨fun ⟨_, hsome, h⟩ ↦ Option.some.inj hsome ▸ h, fun h ↦ ⟨packet, rfl, h⟩⟩

/-- A packet to interchain accounts has entries if there is a transaction in its payload. -/
theorem packetOfPayload?_nested {scope : Scope} (g : Any → Record.NestedMessage)
    {kind : IbcChannel.Kind} {m : kind.Body} {packet : IbcChannel.Packet}
    (hpacket : IbcChannel.packetOf? kind m = some packet)
    (hport : packet.destinationPort = scope.settings.icaHostPort) :
    PacketDiffers scope.settings (.known (.ibcChannel kind) m) scope.nested g
      (InterchainAccounts.packetOfPayload? scope packet.data)
      (InterchainAccounts.packetOfPayload? { scope with nested := g } packet.data) := by
  obtain ⟨packetType, memo, hpayload⟩ := InterchainAccounts.packetOfPayload?_eq packet.data
  rw [hpayload, hpayload]
  cases htransaction : InterchainAccounts.transactionIn? packet.data with
  | none =>
    refine .same fun transaction h ↦ ?_
    obtain ⟨-, hsome⟩ := (carriesTransaction_iff_of_packet hpacket).1 h
    exact nomatch htransaction.symm.trans hsome
  | some transaction =>
    exact .entries ((carriesTransaction_iff_of_packet hpacket).2 ⟨hport, htransaction⟩)

/-- Only a packet to interchain accounts has entries. -/
theorem readPacket_nested (scope : Scope) (g : Any → Record.NestedMessage)
    {kind : IbcChannel.Kind} {m : kind.Body} (signer : String) (flow : IbcChannel.Flow) :
    Findings.DifferInEntries scope.settings (.known (.ibcChannel kind) m) scope.nested g
      (IbcChannel.readPacket scope signer flow (IbcChannel.packetOf? kind m))
      (IbcChannel.readPacket { scope with nested := g } signer flow
        (IbcChannel.packetOf? kind m)) := by
  have hproposal : ∀ m' : Gov.MsgSubmitProposal,
      Message.known (.ibcChannel kind) m ≠ .known (.gov .submitProposal) m' :=
    fun m' h ↦ by cases h
  cases hpacket : IbcChannel.packetOf? kind m with
  | none =>
    refine differInEntries_refl (fun transaction h ↦ ?_) hproposal _
    rw [carriesTransaction_ibcChannel_iff, hpacket] at h
    obtain ⟨packet, hsome, -⟩ := h
    exact nomatch hsome
  | some packet =>
    by_cases hport : packet.destinationPort = scope.settings.icaHostPort
    · have hport' : packet.destinationPort =
          ({ scope with nested := g } : Scope).settings.icaHostPort := hport
      rw [IbcChannel.readPacket_host hport, IbcChannel.readPacket_host hport']
      exact ⟨rfl, packetOfPayload?_nested g hpacket hport,
        .same fun m' h ↦ absurd h (hproposal m')⟩
    · have hread : IbcChannel.readPacket { scope with nested := g } signer flow (some packet) =
          IbcChannel.readPacket scope signer flow (some packet) := by
        rw [IbcChannel.readPacket, IbcChannel.readPacket, if_neg hport, if_neg hport]
        rfl
      rw [hread]
      exact differInEntries_refl
        (fun transaction h ↦ hport ((carriesTransaction_iff_of_packet hpacket).1 h).1) hproposal _

/-- A transaction that is sent has entries for its messages. -/
theorem sendTx_nested (scope : Scope) (g : Any → Record.NestedMessage)
    (m : InterchainAccounts.MsgSendTx) :
    Findings.DifferInEntries scope.settings (.known (.interchainAccounts .sendTx) m) scope.nested g
      (InterchainAccounts.read scope .sendTx m)
      (InterchainAccounts.read { scope with nested := g } .sendTx m) := by
  refine ⟨rfl, ?_, .same fun _ h ↦ by cases h⟩
  show PacketDiffers _ _ _ _ (m.packetData.map (InterchainAccounts.packetOf scope))
    (m.packetData.map (InterchainAccounts.packetOf { scope with nested := g }))
  cases hdata : m.packetData with
  | none =>
    refine .same fun transaction h ↦ ?_
    cases h with
    | sendTx hsome => exact nomatch hdata.symm.trans hsome
  | some data =>
    simp only [Option.map_some, InterchainAccounts.packetOf, InterchainAccounts.nestedMessages_eq]
    exact .entries (.sendTx hdata)

/-- **Entries are the only use of the function for entries.** -/
theorem read_nested (message : Message) (scope : Scope) (g : Any → Record.NestedMessage) :
    Alike Eq (Findings.DifferInEntries scope.settings message scope.nested g)
      (message.read scope) (message.read { scope with nested := g }) := by
  cases message with
  | unknown any =>
    exact .ok (differInEntries_refl (fun _ h ↦ by cases h) (fun _ h ↦ by cases h) _)
  | known kind m =>
    cases kind with
    | gov kind =>
      cases kind with
      | submitProposal =>
        exact (submitted_nested scope g m).bind fun p p' h ↦
          .ok ⟨rfl, .same (fun _ hcarries ↦ by cases hcarries), h⟩
      | execLegacyContent | vote | voteWeighted | deposit | cancelProposal =>
        exact Alike.refl (fun _ ↦ rfl)
          (differInEntries_refl (fun _ h ↦ by cases h) (fun _ h ↦ by cases h)) _
    | interchainAccounts kind =>
      cases kind with
      | register =>
        exact .ok (differInEntries_refl (fun _ h ↦ by cases h) (fun _ h ↦ by cases h) _)
      | sendTx => exact .ok (sendTx_nested scope g m)
    | ibcChannel kind =>
      obtain ⟨signer, flow, hread, -⟩ := IbcChannel.read_eq_readPacket kind m
      refine .ok ?_
      rw [hread, hread]
      exact readPacket_nested scope g signer flow
    | bank kind | staking kind | slashing kind | distribution kind | vesting kind | blob kind
    | blobstream kind | feegrant kind | authz kind | legacyGov kind | upgrade kind | signal kind
    | circuit kind | ibcClient kind | ibcConnection kind | ibcTransfer kind | mailbox kind
    | securityModule kind | postDispatch kind | warp kind | zkIsm kind | forwarding kind =>
      exact Alike.refl (fun _ ↦ rfl)
        (differInEntries_refl (fun _ h ↦ by cases h) (fun _ h ↦ by cases h)) _

/-- No reader looks at the limit itself. -/
theorem read_limit (message : Message) (scope : Scope) (limit : UInt64) :
    message.read { scope with decoder.settings.maxNestingDepth := limit } =
      message.read scope := by
  cases message with
  | unknown any => rfl
  | known kind m => cases kind <;> rename_i kind <;> cases kind <;> rfl

theorem recordIn_limit (message : Message) (scope : Scope) (limit : UInt64) :
    message.recordIn { scope with decoder.settings.maxNestingDepth := limit } =
      message.recordIn scope := by
  rw [recordIn, read_limit, recordIn]
  rfl

theorem isInconsistent_limit (message : Message) (settings : Settings) (limit : UInt64) :
    message.IsInconsistent { settings with maxNestingDepth := limit } ↔
      message.IsInconsistent settings :=
  Iff.rfl

/-! ### Records -/

/-- Where the transaction has failed there is no proposal, and so no entry in one. -/
theorem stamp_differInEntries (message : Message) (scope : Scope) {found found' : Findings}
    (h : found.DifferInEntries settings message f g found') :
    (message.stamp scope found).DifferInEntries settings message f g
      (message.stamp scope found') := by
  obtain ⟨hothers, hpacket, hproposal⟩ := h
  unfold stamp
  cases scope.status with
  | success =>
    refine ⟨?_, hpacket, hproposal⟩
    rw [hothers]
  | failed =>
    refine ⟨?_, hpacket, .same fun m hm proposal hnone ↦ nomatch hnone⟩
    rw [hothers]

theorem recordIn_nested (message : Message) (scope : Scope) (g : Any → Record.NestedMessage) :
    Alike Eq (Record.Message.DifferInEntries scope.settings message scope.nested g)
      (message.recordIn scope) (message.recordIn { scope with nested := g }) := by
  rw [recordIn_eq, recordIn_eq]
  refine ((message.read_nested scope g).map fun found found' h ↦ ?_).mapError ?_
  · exact stamp_differInEntries message scope h
  · rintro cause _ rfl
    rfl

end Message

/-! ### Levels -/

namespace Reading

variable (d : Decoder) (block : Block) (position : Nat) (status : Status)

/-- One level is as good as any number of them, under any limit. -/
theorem nestedAt_succ_limit (limit : UInt64) (levels levels' : Nat) :
    nestedAt { d with settings.maxNestingDepth := limit } block position status (levels' + 1) =
      nestedAt d block position status (levels + 1) := by
  funext any
  cases hof : Message.ofAny any with
  | error fault =>
    rw [nestedAt_succ_of_error _ block position status levels' hof,
      nestedAt_succ_of_error _ block position status levels hof]
  | ok message =>
    -- neither whether there is a record nor what is in the entry depends on the levels left
    rcases nestedAt_succ_of_ok d block position status levels hof with
      ⟨hin, hentry⟩ | ⟨hin, hentry⟩ <;>
    rcases nestedAt_succ_of_ok { d with settings.maxNestingDepth := limit } block position status
      levels' hof with ⟨hin', hentry'⟩ | ⟨hin', hentry'⟩
    · rw [hentry, hentry']
    · exact absurd ((message.isInconsistent_limit d.settings limit).2 hin) hin'
    · exact absurd ((message.isInconsistent_limit d.settings limit).1 hin') hin
    · rw [hentry, hentry']

theorem exists_toNat_eq_succ {limit : UInt64} (h : limit ≠ 0) : ∃ n, limit.toNat = n + 1 :=
  Nat.exists_eq_succ_of_ne_zero fun hzero ↦ h (UInt64.toNat_inj.1 hzero)

end Reading

/-- **The nesting limit only matters at zero.** The result is the same under any two limits that
allow some level. Under the limit that allows none the message is refused for the same reason, or
its record is the same but for the entries of wrapped messages in the packet and in the changes of
the proposal, and these are all left as they are. -/
theorem Message.record_limit (d : Decoder) (block : Block) (message : Message) (position : Nat)
    (status : Status) (hdepth : d.settings.maxNestingDepth ≠ 0) :
    (∀ limit : UInt64, limit ≠ 0 →
      message.record { d with settings.maxNestingDepth := limit } block position status =
        message.record d block position status) ∧
    Alike Eq
      (Record.Message.DifferInEntries d.settings message
        (nestedAt d block position status d.settings.maxNestingDepth.toNat) .undecoded)
      (message.record d block position status)
      (message.record { d with settings.maxNestingDepth := 0 } block position status) := by
  refine ⟨fun limit hlimit ↦ ?_, ?_⟩
  · obtain ⟨levels, hlevels⟩ := exists_toNat_eq_succ hdepth
    obtain ⟨levels', hlevels'⟩ := exists_toNat_eq_succ hlimit
    have hscope : outermost { d with settings.maxNestingDepth := limit } block position status =
        { outermost d block position status with decoder.settings.maxNestingDepth := limit } := by
      rw [outermost, outermost, hlevels, hlevels', nestedAt_succ_limit d]
    rw [record, record, hscope]
    exact message.recordIn_limit (outermost d block position status) limit
  · have hzero : message.record { d with settings.maxNestingDepth := 0 } block position status =
        message.recordIn { outermost d block position status with nested := .undecoded } :=
      message.recordIn_limit { outermost d block position status with nested := .undecoded } 0
    rw [hzero]
    exact message.recordIn_nested (outermost d block position status) .undecoded

/-- A transaction that is sent, with a transfer in it. -/
def Message.sentTransfer : Message :=
  .known (.interchainAccounts .sendTx) ⟨"owner", "connection-3",
    some ⟨1, InterchainAccounts.CosmosTx.shape.encode
      ⟨[⟨"/cosmos.bank.v1beta1.MsgSend", Bank.MsgSend.shape.encode ⟨"a", "b", []⟩⟩]⟩, "memo"⟩, 0⟩

/-- With the default limit the transfer is read as with the largest one; with no level it is left as
it is. -/
theorem Message.record_limit_sentTransfer :
    sentTransfer.record { settings.maxNestingDepth := 18446744073709551615 }
        ⟨100, ⟨1700000000, 0⟩⟩ 0 .success =
      sentTransfer.record {} ⟨100, ⟨1700000000, 0⟩⟩ 0 .success ∧
    Alike Eq
      (Record.Message.DifferInEntries {} sentTransfer
        (nestedAt {} ⟨100, ⟨1700000000, 0⟩⟩ 0 .success 2) .undecoded)
      (sentTransfer.record {} ⟨100, ⟨1700000000, 0⟩⟩ 0 .success)
      (sentTransfer.record { settings.maxNestingDepth := 0 } ⟨100, ⟨1700000000, 0⟩⟩ 0
        .success) := by
  obtain ⟨hlimit, hzero⟩ :=
    record_limit {} ⟨100, ⟨1700000000, 0⟩⟩ sentTransfer 0 .success (by decide)
  exact ⟨hlimit 18446744073709551615 (by decide), hzero⟩

end ChainRecord
