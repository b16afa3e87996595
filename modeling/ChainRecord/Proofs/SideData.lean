import ChainRecord.Proofs.ChannelCounters
import ChainRecord.Proofs.Outcome
import ChainRecord.Reading.Message

/-!
# Every message brings about what belongs to its kind

Beside its fields the record of a message has up to a dozen things that only some messages bring
about. Which ones is said here by tables (`Message.Kind.slot?`, `Message.Kind.carriesPacket`), and
the readers are compared with them in both directions: what is found belongs to the kind, and of the
entries that a kind always brings about none is missing.

An entry for a channel comes with the record of a transfer and with the payload of the packet, and
the three are of one transfer (`IsSettlement`). A reader of packets can stop early at several
places; that none of these leaves one record without the others is
`IbcChannel.readPacket_belongTo`.
-/

namespace ChainRecord

namespace Record

/-- The sorts of entries that a message brings about whenever it is of the right kind. -/
inductive Entities.Slot where
  | grant
  | proposal
  | validator
  | vestingAccount
  | upgrade
  | signalVersion
  | token
  deriving DecidableEq

/-- Whether there is an entry of a sort. -/
def Entities.has (e : Entities) : Slot → Bool
  | .grant => e.grant.isSome
  | .proposal => e.proposal.isSome
  | .validator => e.validator.isSome
  | .vestingAccount => e.vestingAccount.isSome
  | .upgrade => e.upgrade.isSome
  | .signalVersion => e.signalVersion.isSome
  | .token => e.token.isSome

/-- The record of a transfer and the entry for its channel are of one transfer, which is the payload
of the packet. What is counted is nothing or the whole amount, and it is counted on one side. -/
structure IsSettlement (packet : Option Packet) (transfer : Transfer) (channel : Channel) :
    Prop where
  sameChannel : transfer.channelId = channel.id
  samePort : transfer.port = channel.portId
  sameHeight : transfer.height = channel.height
  payload : packet = some (.transfer
    ⟨transfer.amount, transfer.denom, transfer.sender, transfer.receiver, transfer.memo⟩)
  counted : (channel.received + channel.sent).value = 0 ∨
    (channel.received + channel.sent).value = transfer.amount.value
  oneSided : channel.received.value = 0 ∨ channel.sent.value = 0

end Record

namespace Message

/-- The sort of entry that messages of a kind bring about. -/
def Kind.slot? : Kind → Option Record.Entities.Slot
  | .authz .grant | .authz .revoke => some .grant
  | .feegrant .grantAllowance | .feegrant .revokeAllowance => some .grant
  | .gov .submitProposal | .legacyGov .submitProposal => some .proposal
  | .staking .createValidator | .staking .editValidator => some .validator
  | .vesting _ => some .vestingAccount
  | .upgrade .softwareUpgrade | .upgrade .cancelUpgrade | .signal .tryUpgrade => some .upgrade
  | .signal .signalVersion => some .signalVersion
  | .warp .createCollateralToken | .warp .createSyntheticToken => some .token
  | _ => none

/-- Whether messages of a kind carry packets. -/
def Kind.carriesPacket : Kind → Bool
  | .ibcChannel .recvPacket | .ibcChannel .timeout | .ibcChannel .timeoutOnClose
  | .ibcChannel .acknowledgement | .interchainAccounts .sendTx => true
  | _ => false

end Message

namespace Reading

/-- What was found belongs to messages of a kind, and nothing that they bring about is missing. -/
structure Findings.BelongTo (kind? : Option Message.Kind) (found : Findings) : Prop where
  /-- Entries are there exactly for the kinds in the table. -/
  slots : ∀ slot, found.entities.has slot = true ↔ kind?.bind Message.Kind.slot? = some slot
  blobs : found.entities.namespaces ≠ [] ∨ found.blobsSize ≠ 0 →
    kind? = some (.blob .payForBlobs)
  internalMessages : found.internalMessages ≠ [] →
    kind? = some (.authz .exec) ∨ kind? = some (.gov .submitProposal)
  packet : found.packet ≠ none → kind?.any Message.Kind.carriesPacket = true
  /-- The record of a transfer and the entry for its channel are there together or not at all. -/
  settlement : Option.Rel (Record.IsSettlement found.packet) found.entities.transfer
    found.entities.channel
  settles : found.entities.channel ≠ none →
    kind? = some (.ibcChannel .recvPacket) ∨ kind? = some (.ibcChannel .acknowledgement)

/-- There is nothing but addresses and entries of the sorts above. -/
def Findings.IsPlain (found : Findings) : Prop :=
  found =
    { addresses := found.addresses
      entities := { found.entities with namespaces := [], transfer := none, channel := none } }

variable {kind? : Option Message.Kind} {found : Findings}

/-- Of plain findings only the entries are compared with the table. -/
theorem Findings.IsPlain.belongTo (h : found.IsPlain)
    (hslots : ∀ slot, found.entities.has slot =
      decide (kind?.bind Message.Kind.slot? = some slot)) : found.BelongTo kind? where
  slots slot := by rw [hslots, decide_eq_true_iff]
  blobs hblobs :=
    hblobs.elim (absurd (congrArg (·.entities.namespaces) h)) (absurd (congrArg (·.blobsSize) h))
  internalMessages := absurd (congrArg (·.internalMessages) h)
  packet := absurd (congrArg (·.packet) h)
  settlement := by
    rw [h]
    exact .none
  settles := absurd (congrArg (·.entities.channel) h)

section BelongTo

variable (h : found.BelongTo kind?)

include h

/-- Names of wrapped messages may stand with whatever else belongs to a message that wraps some. -/
theorem Findings.BelongTo.withInternalMessages (names : List String)
    (hkind : kind? = some (.authz .exec) ∨ kind? = some (.gov .submitProposal)) :
    { found with internalMessages := names }.BelongTo kind? :=
  { h with internalMessages := fun _ ↦ hkind }

/-- A payload may stand with whatever else belongs to a message that carries a packet, unless that
is of a transfer. -/
theorem Findings.BelongTo.withPacket (packet : Option Record.Packet)
    (hkind : kind?.any Message.Kind.carriesPacket = true)
    (htransfer : found.entities.transfer = none) (hchannel : found.entities.channel = none) :
    { found with packet }.BelongTo kind? :=
  { h with
    packet := fun _ ↦ hkind
    settlement := by
      rw [htransfer, hchannel]
      exact .none }

end BelongTo

/-- Addresses alone belong to messages that bring about no entry. -/
theorem Scope.only_belongTo (scope : Scope) (refs : List (Record.Role × String))
    (h : kind?.bind Message.Kind.slot? = none) : (scope.only refs).BelongTo kind? :=
  Findings.IsPlain.belongTo rfl fun slot ↦ by
    rw [h]
    cases slot <;> rfl

end Reading

open Reading

variable {scope : Scope}

/-! ### Readers that leave at most an entry -/

theorem Staking.read_belongTo (kind : Staking.Kind) (m : kind.Body) :
    Yields (Findings.BelongTo (some (.staking kind))) (Staking.read scope kind m) := by
  cases kind with
  | createValidator | editValidator =>
    exact .of_bind fun _ ↦ .ok (Findings.IsPlain.belongTo rfl
      fun slot ↦ by cases slot <;> rfl)
  | delegate | beginRedelegate | undelegate | cancelUnbondingDelegation =>
    exact .ok (scope.only_belongTo _ rfl)

theorem Vesting.read_belongTo (kind : Vesting.Kind) (m : kind.Body) :
    Yields (Findings.BelongTo (some (.vesting kind))) (Vesting.read scope kind m) := by
  cases kind with
  | createVestingAccount | createPermanentLockedAccount | createPeriodicVestingAccount =>
    exact .of_map fun _ ↦ Findings.IsPlain.belongTo rfl
      fun slot ↦ by cases slot <;> rfl

theorem Feegrant.read_belongTo (kind : Feegrant.Kind) (m : kind.Body) :
    Yields (Findings.BelongTo (some (.feegrant kind))) (Feegrant.read scope kind m) := by
  cases kind with
  | grantAllowance =>
    exact .of_bind fun _ ↦ .ok (Findings.IsPlain.belongTo rfl
      fun slot ↦ by cases slot <;> rfl)
  | revokeAllowance =>
    exact .ok (Findings.IsPlain.belongTo rfl
      fun slot ↦ by cases slot <;> rfl)
  | pruneAllowances => exact .ok (scope.only_belongTo _ rfl)

theorem LegacyGov.read_belongTo (kind : LegacyGov.Kind) (m : kind.Body) :
    Yields (Findings.BelongTo (some (.legacyGov kind))) (LegacyGov.read scope kind m) := by
  cases kind with
  | submitProposal =>
    exact .of_bind fun _ ↦ .ok (Findings.IsPlain.belongTo rfl
      fun slot ↦ by cases slot <;> rfl)
  | vote | voteWeighted | deposit => exact .ok (scope.only_belongTo _ rfl)

theorem Upgrade.read_belongTo (kind : Upgrade.Kind) (m : kind.Body) :
    (Upgrade.read scope kind m).BelongTo (some (.upgrade kind)) := by
  cases kind <;> exact Findings.IsPlain.belongTo rfl
    fun slot ↦ by cases slot <;> rfl

theorem Signal.read_belongTo (kind : Signal.Kind) (m : kind.Body) :
    (Signal.read scope kind m).BelongTo (some (.signal kind)) := by
  cases kind <;> exact Findings.IsPlain.belongTo rfl
    fun slot ↦ by cases slot <;> rfl

theorem Warp.read_belongTo (kind : Warp.Kind) (m : kind.Body) :
    (Warp.read scope kind m).BelongTo (some (.warp kind)) := by
  cases kind with
  | createCollateralToken | createSyntheticToken =>
    exact Findings.IsPlain.belongTo rfl
      fun slot ↦ by cases slot <;> rfl
  | setToken | enrollRemoteRouter | unrollRemoteRouter | remoteTransfer =>
    exact scope.only_belongTo _ rfl

/-! ### Blobs and wrapped messages -/

theorem Blob.read_belongTo (kind : Blob.Kind) (m : kind.Body) :
    Yields (Findings.BelongTo (some (.blob kind))) (Blob.read scope kind m) := by
  cases kind with
  | payForBlobs =>
    refine .of_bind fun namespaces ↦ .ok
      { slots := fun slot ↦ ?_
        blobs := fun _ ↦ rfl
        internalMessages := absurd rfl
        packet := absurd rfl
        settlement := .none
        settles := absurd rfl }
    cases slot <;> exact iff_of_false (fun h ↦ nomatch h) (fun h ↦ nomatch h)

theorem Authz.read_belongTo (kind : Authz.Kind) (m : kind.Body) :
    Yields (Findings.BelongTo (some (.authz kind))) (Authz.read scope kind m) := by
  cases kind with
  | grant =>
    exact .of_bind fun _ ↦ .ok (Findings.IsPlain.belongTo rfl fun slot ↦ by cases slot <;> rfl)
  | exec =>
    have hplain : (scope.only [(.grantee, m.grantee)]).BelongTo (some (.authz .exec)) :=
      scope.only_belongTo _ rfl
    exact .ok (hplain.withInternalMessages (m.msgs.map internalName) (Or.inl rfl))
  | revoke => exact .ok (Findings.IsPlain.belongTo rfl fun slot ↦ by cases slot <;> rfl)

theorem Gov.read_belongTo (kind : Gov.Kind) (m : kind.Body) :
    Yields (Findings.BelongTo (some (.gov kind))) (Gov.read scope kind m) := by
  cases kind with
  | submitProposal =>
    refine .of_bind fun proposal ↦ .ok ?_
    have hplain : Findings.BelongTo (some (.gov .submitProposal))
        { addresses := scope.addresses [(.proposer, m.proposer)]
          entities := { proposal := some proposal } } :=
      Findings.IsPlain.belongTo rfl fun slot ↦ by cases slot <;> rfl
    exact hplain.withInternalMessages (m.messages.map internalName) (Or.inr rfl)
  | execLegacyContent | vote | voteWeighted | deposit | cancelProposal =>
    exact .ok (scope.only_belongTo _ rfl)

/-! ### Packets -/

theorem InterchainAccounts.read_belongTo (kind : InterchainAccounts.Kind) (m : kind.Body) :
    (InterchainAccounts.read scope kind m).BelongTo (some (.interchainAccounts kind)) := by
  cases kind with
  | register => exact scope.only_belongTo _ rfl
  | sendTx =>
    have hplain : (scope.only [(.owner, m.owner)]).BelongTo
        (some (.interchainAccounts .sendTx)) :=
      scope.only_belongTo _ rfl
    exact hplain.withPacket _ rfl rfl rfl

namespace IbcChannel

/-- The native part of an amount is nothing or all of it. -/
theorem nativePart_value (settings : Settings) (data : Record.TransferData) :
    (nativePart settings data).value = 0 ∨
      (nativePart settings data).value = data.amount.value := by
  unfold nativePart
  split
  · exact Or.inr rfl
  · exact Or.inl Decimal.value_zero

/-- A transfer leaves both records or none. -/
theorem transferEntities_settlement (scope : Scope) (packet : Packet)
    (data : Record.TransferData) (flow : Flow) :
    Option.Rel (Record.IsSettlement (some (.transfer data)))
      (transferEntities scope packet data flow).transfer
      (transferEntities scope packet data flow).channel := by
  have hnative := nativePart_value scope.settings data
  cases flow with
  | received =>
    refine .some ⟨rfl, rfl, rfl, rfl, ?_, Or.inr Decimal.value_zero⟩
    rwa [Decimal.value_add, Decimal.value_zero, add_zero]
  | sent =>
    refine .some ⟨rfl, rfl, rfl, rfl, ?_, Or.inl Decimal.value_zero⟩
    rwa [Decimal.value_add, Decimal.value_zero, zero_add]
  | refunded => exact .none

/-- A transfer brings about no other entries. -/
theorem transferEntities_has (scope : Scope) (packet : Packet) (data : Record.TransferData)
    (flow : Flow) (slot : Record.Entities.Slot) :
    (transferEntities scope packet data flow).has slot = false := by
  cases flow <;> cases slot <;> rfl

/-- Wherever the reader of a packet stops, what it has found belongs to a message that carries one.
Only if the packet does not come back the message has to be one by which transfers take effect. -/
theorem readPacket_belongTo {kind : Kind} (signer : String) {flow : Flow}
    (packet? : Option Packet) (hkind : Message.Kind.carriesPacket (.ibcChannel kind) = true)
    (hflow : flow = .refunded ∨ kind = .recvPacket ∨ kind = .acknowledgement) :
    (readPacket scope signer flow packet?).BelongTo (some (.ibcChannel kind)) := by
  have hsigner : (scope.only [(.signer, signer)]).BelongTo (some (.ibcChannel kind)) :=
    scope.only_belongTo _ rfl
  rcases readPacket_cases scope signer flow packet? with
    h | ⟨packet, -, -, h⟩ | ⟨packet, data, -, -, -, h⟩
  · rw [h]
    exact hsigner
  · rw [h]
    exact hsigner.withPacket _ hkind rfl rfl
  · rw [h]
    exact
      { slots := fun slot ↦ by
          rw [transferEntities_has]
          exact iff_of_false Bool.false_ne_true (fun hslot ↦ nomatch hslot)
        blobs := by
          have hnamespaces : (transferEntities scope packet data flow).namespaces = [] := by
            cases flow <;> rfl
          exact fun hblobs ↦ hblobs.elim (absurd hnamespaces) (absurd rfl)
        internalMessages := absurd rfl
        packet := fun _ ↦ hkind
        settlement := transferEntities_settlement scope packet data flow
        settles := by
          rcases hflow with rfl | rfl | rfl
          · exact absurd rfl
          · exact fun _ ↦ Or.inl rfl
          · exact fun _ ↦ Or.inr rfl }

theorem read_belongTo (kind : Kind) (m : kind.Body) :
    (read scope kind m).BelongTo (some (.ibcChannel kind)) := by
  cases kind with
  | recvPacket => exact readPacket_belongTo _ _ rfl (Or.inr (Or.inl rfl))
  | timeout | timeoutOnClose => exact readPacket_belongTo _ _ rfl (Or.inl rfl)
  | acknowledgement => exact readPacket_belongTo _ _ rfl (Or.inr (Or.inr rfl))
  | openInit | openTry | openAck | openConfirm | closeInit | closeConfirm =>
    exact scope.only_belongTo _ rfl

end IbcChannel

/-! ### All messages -/

/-- What is found in a message belongs to it. -/
theorem Message.read_belongTo (message : Message) :
    Yields (Findings.BelongTo message.kind?) (message.read scope) := by
  cases message with
  | unknown any => exact .ok (scope.only_belongTo [] rfl)
  | known kind m =>
    cases kind with
    | staking kind => exact Staking.read_belongTo kind m
    | vesting kind => exact Vesting.read_belongTo kind m
    | blob kind => exact Blob.read_belongTo kind m
    | feegrant kind => exact Feegrant.read_belongTo kind m
    | authz kind => exact Authz.read_belongTo kind m
    | gov kind => exact Gov.read_belongTo kind m
    | legacyGov kind => exact LegacyGov.read_belongTo kind m
    | upgrade kind => exact .ok (Upgrade.read_belongTo kind m)
    | signal kind => exact .ok (Signal.read_belongTo kind m)
    | ibcChannel kind => exact .ok (IbcChannel.read_belongTo kind m)
    | interchainAccounts kind => exact .ok (InterchainAccounts.read_belongTo kind m)
    | warp kind => exact .ok (Warp.read_belongTo kind m)
    | bank kind | slashing kind | distribution kind | blobstream kind | circuit kind
    | ibcClient kind | ibcConnection kind | ibcTransfer kind | mailbox kind | securityModule kind
    | postDispatch kind | zkIsm kind | forwarding kind =>
      cases kind <;> exact .ok (scope.only_belongTo _ rfl)

/-- What the record of a message keeps of what was found in it. -/
def Record.Message.findings (r : Record.Message) : Findings :=
  ⟨r.addresses, r.blobsSize, r.internalMessages, r.packet, r.entities⟩

/-- **A message of an executed transaction brings about what belongs to its kind, and nothing
else.** Entries of the sorts in the table are there exactly for the kinds in the table; namespaces
and blob sizes, names of wrapped messages, payloads and channels only for the kinds they belong to;
the record of a transfer and the entry for its channel only together, and then of one transfer. -/
theorem Message.record_belongTo {d : Decoder} {block : Block} {position : Nat} {message : Message}
    {r : Record.Message} (h : message.record d block position .success = .ok r) :
    r.findings.BelongTo message.kind? := by
  obtain ⟨found, hfound, rfl⟩ := Message.recordIn_eq_ok_iff.1 h
  exact message.read_belongTo found hfound

/-- A packet that comes in with a transfer leaves an entry for its channel, together with the record
of the transfer. -/
theorem Message.record_belongTo_packetOfFive :
    ∃ r, (Message.known (.ibcChannel .recvPacket)
        ⟨some (IbcChannel.packetOfFive "utia"), [], none, ""⟩).record {} ⟨100, ⟨1700000000, 0⟩⟩ 0
          .success = .ok r ∧
      r.entities.channel.isSome = true ∧
      r.findings.BelongTo (some (.ibcChannel .recvPacket)) := by
  obtain ⟨r, hr, hentities⟩ := IbcChannel.record_entities {} ⟨100, ⟨1700000000, 0⟩⟩ 0 .recvPacket
    ⟨some (IbcChannel.packetOfFive "utia"), [], none, ""⟩
  refine ⟨r, hr, ?_, record_belongTo hr⟩
  rw [hentities]
  decide +kernel

end ChainRecord
