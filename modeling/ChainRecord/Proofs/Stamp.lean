import ChainRecord.Proofs.Outcome
import ChainRecord.Reading.Message

/-!
# What a stamp changes

The block, the place and the execution of a transaction are stamped on the record of a message;
they do not decide what the message is. Two readings of one message in scopes that differ only in
these three are compared.

## The relation that every reader keeps

`Findings.Match` says what two readings share: everything, except that entities carry the height
and the time of their block and are equal only if the block is the same. Each module proves that
its reader keeps it (`read_moved`), whatever the wrapped messages are read by, as long as both
scopes read them alike.

## Wrapped messages

That both scopes do read wrapped messages alike is an induction on the levels that may be read
(`nestedAt_eq`): a record of a wrapped message keeps neither block nor place, so once the readings
one level further in are equal, those of this level are related and leave the same record.
-/

namespace ChainRecord

/-- The record of an address without the block it was seen in. -/
def Record.Address.content (a : Record.Address) :
    Record.Role × String × Bytes × Record.Balance :=
  (a.role, a.address, a.hash, a.balance)

namespace Reading

/-- The scope in another block, at another place, in a transaction of another execution. -/
def Scope.moved (scope : Scope) (block : Block) (position : Nat) (status : Status) : Scope :=
  { scope with block, position, status }

/-- Two findings in one message are the same up to the block that entities are stamped with. -/
structure Findings.Match (sameBlock : Prop) (f g : Findings) : Prop where
  addresses : f.addresses.map Record.Address.content = g.addresses.map Record.Address.content
  blobsSize : f.blobsSize = g.blobsSize
  internalMessages : f.internalMessages = g.internalMessages
  packet : f.packet = g.packet
  entities : sameBlock → f.entities = g.entities

variable {scope : Scope} {block : Block} {position : Nat} {status : Status}

@[simp] theorem Scope.moved_settings :
    (scope.moved block position status).settings = scope.settings := rfl

/-- Addresses are recorded alike in all blocks but for the block. -/
theorem Scope.addresses_moved (refs : List (Record.Role × String)) :
    (scope.addresses refs).map Record.Address.content =
      ((scope.moved block position status).addresses refs).map Record.Address.content := by
  simp only [Scope.addresses, List.map_map]
  rfl

/-- Findings match if they are the same addresses, recorded in both scopes, and entities that the
block alone decides on. -/
theorem Findings.match_moved {refs : List (Record.Role × String)} {blobsSize : UInt64}
    {internalMessages : List String} {packet : Option Record.Packet}
    {entities entities' : Record.Entities}
    (h : block = scope.block → entities = entities') :
    Findings.Match (block = scope.block)
      ⟨scope.addresses refs, blobsSize, internalMessages, packet, entities⟩
      ⟨(scope.moved block position status).addresses refs, blobsSize, internalMessages, packet,
        entities'⟩ where
  addresses := scope.addresses_moved refs
  blobsSize := rfl
  internalMessages := rfl
  packet := rfl
  entities := h

theorem Scope.only_moved (refs : List (Record.Role × String)) :
    (scope.only refs).Match (block = scope.block)
      ((scope.moved block position status).only refs) :=
  Findings.match_moved fun _ ↦ rfl

end Reading

open Reading

variable {scope : Scope} {block : Block} {position : Nat} {status : Status}

/-! ### Blobs -/

/-- Namespaces have the same sizes in all blocks, and lack them in all blocks alike. -/
theorem Blob.pairNamespaces_moved (block block' : Block) (count : Nat) (namespaces : List Bytes)
    (sizes : List UInt32) (index : Nat) :
    Alike Eq (fun xs ys ↦ xs.map (·.size) = ys.map (·.size) ∧ (block' = block → xs = ys))
      (Blob.pairNamespaces block count index namespaces sizes)
      (Blob.pairNamespaces block' count index namespaces sizes) := by
  induction namespaces generalizing sizes index with
  | nil => exact .ok ⟨rfl, fun _ ↦ rfl⟩
  | cons bytes namespaces ih =>
    cases sizes with
    | nil => exact .error rfl
    | cons size sizes =>
      cases bytes with
      | nil => exact .error rfl
      | cons version identifier =>
        refine (ih sizes (index + 1)).map fun xs ys h ↦ ⟨?_, ?_⟩
        · simp only [List.map_cons, h.1]
        · intro hblock
          rw [h.2 hblock, hblock]

theorem Blob.read_moved (kind : Blob.Kind) (m : kind.Body) :
    Alike Eq (Findings.Match (block = scope.block)) (Blob.read scope kind m)
      (Blob.read (scope.moved block position status) kind m) := by
  cases kind with
  | payForBlobs =>
    refine (Blob.pairNamespaces_moved scope.block block _ m.namespaces m.blobSizes 0).bind
      fun xs ys h ↦ .ok ?_
    rw [h.1]
    exact Findings.match_moved fun hblock ↦ by rw [h.2 hblock]

/-! ### Validators -/

theorem Staking.createdValidator_moved (m : Staking.MsgCreateValidator) :
    Alike Eq (fun v w ↦ block = scope.block → v = w) (Staking.createdValidator scope m)
      (Staking.createdValidator (scope.moved block position status) m) := by
  unfold Staking.createdValidator
  -- a stake that is left out and one that is read are followed by the same steps
  cases m.value
  all_goals
    refine Alike.bind_same _ fun stake ↦ ?_
    refine Alike.bind_same _ fun rate ↦ ?_
    refine Alike.bind_same _ fun maxRate ↦ ?_
    refine Alike.bind_same _ fun maxChangeRate ↦ ?_
    refine Alike.bind_same _ fun minSelfDelegation ↦ .ok ?_
    rintro rfl
    rfl

theorem Staking.editedValidator_moved (m : Staking.MsgEditValidator) :
    Alike Eq (fun v w ↦ block = scope.block → v = w) (Staking.editedValidator scope m)
      (Staking.editedValidator (scope.moved block position status) m) := by
  refine Alike.bind_same _ fun rate ↦ ?_
  refine Alike.bind_same _ fun minSelfDelegation ↦ .ok ?_
  rintro rfl
  rfl

theorem Staking.read_moved (kind : Staking.Kind) (m : kind.Body) :
    Alike Eq (Findings.Match (block = scope.block)) (Staking.read scope kind m)
      (Staking.read (scope.moved block position status) kind m) := by
  cases kind with
  | createValidator =>
    refine (Staking.createdValidator_moved m).bind fun v w h ↦ .ok ?_
    exact Findings.match_moved fun hblock ↦ by rw [h hblock]
  | editValidator =>
    refine (Staking.editedValidator_moved m).bind fun v w h ↦ .ok ?_
    exact Findings.match_moved fun hblock ↦ by rw [h hblock]
  | delegate => exact .ok (scope.only_moved _)
  | beginRedelegate => exact .ok (scope.only_moved _)
  | undelegate => exact .ok (scope.only_moved _)
  | cancelUnbondingDelegation => exact .ok (scope.only_moved _)

/-! ### Grants -/

theorem Authz.given_moved (m : Authz.MsgGrant) :
    Alike Eq (fun v w ↦ block = scope.block → v = w) (Authz.given scope m)
      (Authz.given (scope.moved block position status) m) := by
  refine Alike.bind_same _ fun expiration ↦ .ok ?_
  rintro rfl
  rfl

theorem Authz.read_moved (kind : Authz.Kind) (m : kind.Body) :
    Alike Eq (Findings.Match (block = scope.block)) (Authz.read scope kind m)
      (Authz.read (scope.moved block position status) kind m) := by
  cases kind with
  | grant =>
    refine (Authz.given_moved m).bind fun v w h ↦ .ok ?_
    exact Findings.match_moved fun hblock ↦ by rw [h hblock]
  | exec => exact .ok (Findings.match_moved fun _ ↦ rfl)
  | revoke =>
    refine .ok (Findings.match_moved ?_)
    rintro rfl
    rfl

theorem Feegrant.given_moved (m : Feegrant.MsgGrantAllowance) :
    Alike Eq (fun v w ↦ block = scope.block → v = w) (Feegrant.given scope m)
      (Feegrant.given (scope.moved block position status) m) := by
  refine Alike.bind_same _ fun expiration ↦ .ok ?_
  rintro rfl
  rfl

theorem Feegrant.read_moved (kind : Feegrant.Kind) (m : kind.Body) :
    Alike Eq (Findings.Match (block = scope.block)) (Feegrant.read scope kind m)
      (Feegrant.read (scope.moved block position status) kind m) := by
  cases kind with
  | grantAllowance =>
    refine (Feegrant.given_moved m).bind fun v w h ↦ .ok ?_
    exact Findings.match_moved fun hblock ↦ by rw [h hblock]
  | revokeAllowance =>
    refine .ok (Findings.match_moved ?_)
    rintro rfl
    rfl
  | pruneAllowances => exact .ok (scope.only_moved _)

/-! ### Proposals -/

theorem LegacyGov.submitted_moved (m : LegacyGov.MsgSubmitProposal) :
    Alike Eq (fun v w ↦ block = scope.block → v = w) (LegacyGov.submitted scope m)
      (LegacyGov.submitted (scope.moved block position status) m) := by
  refine Alike.bind_same _ fun deposit ↦ .ok ?_
  rintro rfl
  rfl

theorem LegacyGov.read_moved (kind : LegacyGov.Kind) (m : kind.Body) :
    Alike Eq (Findings.Match (block = scope.block)) (LegacyGov.read scope kind m)
      (LegacyGov.read (scope.moved block position status) kind m) := by
  cases kind with
  | submitProposal =>
    refine (LegacyGov.submitted_moved m).bind fun v w h ↦ .ok ?_
    exact Findings.match_moved fun hblock ↦ by rw [h hblock]
  | vote => exact .ok (scope.only_moved _)
  | voteWeighted => exact .ok (scope.only_moved _)
  | deposit => exact .ok (scope.only_moved _)

theorem Gov.submitted_moved (m : Gov.MsgSubmitProposal) :
    Alike Eq (fun v w ↦ block = scope.block → v = w) (Gov.submitted scope m)
      (Gov.submitted (scope.moved block position status) m) := by
  refine Alike.bind_same _ fun deposit ↦ .ok ?_
  rintro rfl
  rfl

theorem Gov.read_moved (kind : Gov.Kind) (m : kind.Body) :
    Alike Eq (Findings.Match (block = scope.block)) (Gov.read scope kind m)
      (Gov.read (scope.moved block position status) kind m) := by
  cases kind with
  | submitProposal =>
    refine (Gov.submitted_moved m).bind fun v w h ↦ .ok ?_
    exact Findings.match_moved fun hblock ↦ by rw [h hblock]
  | execLegacyContent => exact .ok (scope.only_moved _)
  | vote => exact .ok (scope.only_moved _)
  | voteWeighted => exact .ok (scope.only_moved _)
  | deposit => exact .ok (scope.only_moved _)
  | cancelProposal => exact .ok (scope.only_moved _)

/-! ### Upgrades and tokens -/

theorem Upgrade.read_moved (kind : Upgrade.Kind) (m : kind.Body) :
    (Upgrade.read scope kind m).Match (block = scope.block)
      (Upgrade.read (scope.moved block position status) kind m) := by
  cases kind
  all_goals
    refine Findings.match_moved ?_
    rintro rfl
    rfl

theorem Signal.read_moved (kind : Signal.Kind) (m : kind.Body) :
    (Signal.read scope kind m).Match (block = scope.block)
      (Signal.read (scope.moved block position status) kind m) := by
  cases kind
  all_goals
    refine Findings.match_moved ?_
    rintro rfl
    rfl

theorem Warp.tokenFindings_moved (owner mailbox denom : String) (tokenType : Record.TokenType) :
    (Warp.tokenFindings scope owner mailbox denom tokenType).Match (block = scope.block)
      (Warp.tokenFindings (scope.moved block position status) owner mailbox denom tokenType) := by
  refine Findings.match_moved ?_
  rintro rfl
  rfl

theorem Warp.read_moved (kind : Warp.Kind) (m : kind.Body) :
    (Warp.read scope kind m).Match (block = scope.block)
      (Warp.read (scope.moved block position status) kind m) := by
  cases kind with
  | createCollateralToken => exact Warp.tokenFindings_moved _ _ _ _
  | createSyntheticToken => exact Warp.tokenFindings_moved _ _ _ _
  | setToken => exact scope.only_moved _
  | enrollRemoteRouter => exact scope.only_moved _
  | unrollRemoteRouter => exact scope.only_moved _
  | remoteTransfer => exact scope.only_moved _

/-! ### Vesting accounts -/

theorem Vesting.createdAccount_moved (m : Vesting.MsgCreateVestingAccount) :
    Alike Eq (fun v w ↦ block = scope.block → v = w) (Vesting.createdAccount scope m)
      (Vesting.createdAccount (scope.moved block position status) m) := by
  refine Alike.bind_same _ fun amount ↦ ?_
  refine Alike.bind_same _ fun endTime ↦ .ok ?_
  rintro rfl
  rfl

theorem Vesting.lockedAccount_moved (m : Vesting.MsgCreatePermanentLockedAccount) :
    Alike Eq (fun v w ↦ block = scope.block → v = w) (Vesting.lockedAccount scope m)
      (Vesting.lockedAccount (scope.moved block position status) m) := by
  refine Alike.bind_same _ fun amount ↦ .ok ?_
  rintro rfl
  rfl

theorem Vesting.periodicAccount_moved (m : Vesting.MsgCreatePeriodicVestingAccount) :
    Alike Eq (fun v w ↦ block = scope.block → v = w) (Vesting.periodicAccount scope m)
      (Vesting.periodicAccount (scope.moved block position status) m) := by
  refine Alike.bind_same _ fun periods ↦ ?_
  refine Alike.bind_same _ fun endSeconds ↦ ?_
  refine Alike.bind_same _ fun startTime ↦ ?_
  refine Alike.bind_same _ fun endTime ↦ .ok ?_
  rintro rfl
  rfl

theorem Vesting.accountFindings_moved (sender recipient : String)
    {account account' : Record.VestingAccount} (h : block = scope.block → account = account') :
    (Vesting.accountFindings scope sender recipient account).Match (block = scope.block)
      (Vesting.accountFindings (scope.moved block position status) sender recipient account') :=
  Findings.match_moved fun hblock ↦ by rw [h hblock]

theorem Vesting.read_moved (kind : Vesting.Kind) (m : kind.Body) :
    Alike Eq (Findings.Match (block = scope.block)) (Vesting.read scope kind m)
      (Vesting.read (scope.moved block position status) kind m) := by
  cases kind with
  | createVestingAccount =>
    exact (Vesting.createdAccount_moved m).map fun _ _ h ↦ Vesting.accountFindings_moved _ _ h
  | createPermanentLockedAccount =>
    exact (Vesting.lockedAccount_moved m).map fun _ _ h ↦ Vesting.accountFindings_moved _ _ h
  | createPeriodicVestingAccount =>
    exact (Vesting.periodicAccount_moved m).map fun _ _ h ↦ Vesting.accountFindings_moved _ _ h

/-! ### Packets -/

/-- The payload for an interchain account is read with what reads its wrapped messages, and with
nothing else of the scope. -/
theorem InterchainAccounts.packetOfPayload?_moved (payload : Bytes) :
    InterchainAccounts.packetOfPayload? (scope.moved block position status) payload =
      InterchainAccounts.packetOfPayload? scope payload :=
  rfl

theorem InterchainAccounts.read_moved (kind : InterchainAccounts.Kind) (m : kind.Body) :
    (InterchainAccounts.read scope kind m).Match (block = scope.block)
      (InterchainAccounts.read (scope.moved block position status) kind m) := by
  cases kind with
  | register => exact scope.only_moved _
  | sendTx => exact Findings.match_moved fun _ ↦ rfl

theorem IbcChannel.transferEntities_moved (packet : IbcChannel.Packet) (data : Record.TransferData)
    (flow : IbcChannel.Flow) (h : block = scope.block) :
    IbcChannel.transferEntities scope packet data flow =
      IbcChannel.transferEntities (scope.moved block position status) packet data flow := by
  subst h
  cases flow <;> rfl

theorem IbcChannel.readPacket_moved (signer : String) (flow : IbcChannel.Flow)
    (packet : Option IbcChannel.Packet) :
    (IbcChannel.readPacket scope signer flow packet).Match (block = scope.block)
      (IbcChannel.readPacket (scope.moved block position status) signer flow packet) := by
  cases packet with
  | none => exact scope.only_moved _
  | some packet =>
    by_cases hport : packet.destinationPort = scope.settings.icaHostPort
    · rw [IbcChannel.readPacket, IbcChannel.readPacket, scope.moved_settings, if_pos hport,
        if_pos hport, InterchainAccounts.packetOfPayload?_moved]
      exact Findings.match_moved fun _ ↦ rfl
    · rw [IbcChannel.readPacket, IbcChannel.readPacket, scope.moved_settings, if_neg hport,
        if_neg hport]
      cases IbcChannel.transferIn? packet with
      | none => exact scope.only_moved _
      | some data =>
        exact Findings.match_moved (IbcChannel.transferEntities_moved packet data flow)

theorem IbcChannel.read_moved (kind : IbcChannel.Kind) (m : kind.Body) :
    (IbcChannel.read scope kind m).Match (block = scope.block)
      (IbcChannel.read (scope.moved block position status) kind m) := by
  cases kind with
  | recvPacket | timeout | timeoutOnClose | acknowledgement =>
    exact IbcChannel.readPacket_moved _ _ _
  | openInit | openTry | openAck | openConfirm | closeInit | closeConfirm =>
    exact scope.only_moved _

/-! ### All messages -/

variable (scope block position status) in
/-- What is found in a message does not depend on the block, the place and the execution, but for
the block that entities are stamped with. -/
theorem Message.read_moved (message : Message) :
    Alike Eq (Findings.Match (block = scope.block)) (message.read scope)
      (message.read (scope.moved block position status)) := by
  cases message with
  | unknown any => exact .ok ⟨rfl, rfl, rfl, rfl, fun _ ↦ rfl⟩
  | known kind m =>
    cases kind with
    | bank kind | slashing kind | distribution kind | blobstream kind | circuit kind
    | ibcClient kind | ibcConnection kind | ibcTransfer kind | mailbox kind | securityModule kind
    | postDispatch kind | zkIsm kind | forwarding kind =>
      cases kind <;> exact .ok (scope.only_moved _)
    | staking kind => exact Staking.read_moved kind m
    | vesting kind => exact Vesting.read_moved kind m
    | blob kind => exact Blob.read_moved kind m
    | feegrant kind => exact Feegrant.read_moved kind m
    | authz kind => exact Authz.read_moved kind m
    | gov kind => exact Gov.read_moved kind m
    | legacyGov kind => exact LegacyGov.read_moved kind m
    | upgrade kind => exact .ok (Upgrade.read_moved kind m)
    | signal kind => exact .ok (Signal.read_moved kind m)
    | ibcChannel kind => exact .ok (IbcChannel.read_moved kind m)
    | interchainAccounts kind => exact .ok (InterchainAccounts.read_moved kind m)
    | warp kind => exact .ok (Warp.read_moved kind m)

/-! ### Records -/

/-- Two records are of one message, whatever they are stamped with. -/
structure Record.Message.SameContent (r r' : Record.Message) : Prop where
  tag : r.tag = r'.tag
  typeUrl : r.typeUrl = r'.typeUrl
  data : r.data = r'.data
  size : r.size = r'.size
  blobsSize : r.blobsSize = r'.blobsSize
  addresses : r.addresses.map Record.Address.content = r'.addresses.map Record.Address.content
  internalMessages : r.internalMessages = r'.internalMessages
  packet : r.packet = r'.packet

/-- Two errors refuse one message for one reason, wherever it stands. -/
def MessageError.SameReason (e e' : MessageError) : Prop :=
  e.typeUrl = e'.typeUrl ∧ e.cause = e'.cause

/-- A record is what was found, stamped, and an error is an inconsistency at its place. -/
theorem Message.recordIn_eq (message : Message) (scope : Scope) :
    message.recordIn scope =
      ((message.read scope).map (message.stamp scope)).mapError
        (⟨message.typeUrl, scope.position, ·⟩) := by
  rw [recordIn]
  cases message.read scope <;> rfl

/-- A message without a record is inconsistent, and named by its type and its place. -/
theorem Message.recordIn_eq_error_iff {message : Message} {scope : Scope} {e : MessageError} :
    message.recordIn scope = .error e ↔
      e.typeUrl = message.typeUrl ∧ e.position = scope.position ∧
        message.read scope = .error e.cause := by
  rw [message.recordIn_eq, mapError_eq_error_iff]
  simp only [map_eq_error_iff]
  constructor
  · rintro ⟨cause, hcause, rfl⟩
    exact ⟨rfl, rfl, hcause⟩
  · rintro ⟨htypeUrl, hposition, hcause⟩
    refine ⟨e.cause, hcause, ?_⟩
    rw [← htypeUrl, ← hposition]

theorem Message.stamp_entities_failed {message : Message} {found : Findings}
    (h : scope.status = .failed) : (message.stamp scope found).entities = .empty := by
  rw [Message.stamp, h]

theorem Message.stamp_entities_success {message : Message} {found : Findings}
    (h : scope.status = .success) : (message.stamp scope found).entities = found.entities := by
  rw [Message.stamp, h]

variable (scope block position status) in
/-- Two scopes that differ only in block, place and execution leave records of one content, or
refuse a message for one reason. -/
theorem Message.recordIn_moved (message : Message) :
    Alike MessageError.SameReason
      (fun r r' ↦ r.SameContent r' ∧ (scope.status = .failed → r.entities = .empty) ∧
        (scope.status = .success → status = .success → block = scope.block →
          r.entities = r'.entities))
      (message.recordIn scope) (message.recordIn (scope.moved block position status)) := by
  have h := message.read_moved scope block position status
  rw [message.recordIn_eq, message.recordIn_eq]
  refine (h.map fun found found' hfound ↦ ?_).mapError fun _ _ hcause ↦ ⟨rfl, hcause⟩
  refine ⟨⟨rfl, rfl, rfl, rfl, hfound.blobsSize, hfound.addresses, hfound.internalMessages,
    hfound.packet⟩, Message.stamp_entities_failed, fun hs hs' hblock ↦ ?_⟩
  rw [Message.stamp_entities_success hs, Message.stamp_entities_success hs']
  exact hfound.entities hblock

/-- What a wrapped message is recorded as depends on neither the block nor the place nor the
execution. -/
theorem Reading.nestedAt_eq (d : Decoder) (block block' : Block) (position position' : Nat)
    (status status' : Status) (levels : Nat) :
    nestedAt d block position status levels = nestedAt d block' position' status' levels := by
  induction levels with
  | zero => rfl
  | succ levels ih =>
    funext any
    unfold nestedAt
    rw [← ih]
    cases Message.ofAny any with
    | error fault => rfl
    | ok message =>
      -- one level further in both scopes read alike, so here they differ only in their stamps
      have h := message.recordIn_moved
        ⟨d, block, position, status, nestedAt d block position status levels⟩
        block' position' status'
      dsimp only [Scope.moved] at h ⊢
      generalize message.recordIn ⟨d, block, position, status, _⟩ = x at h ⊢
      generalize message.recordIn ⟨d, block', position', status', _⟩ = x' at h ⊢
      cases h with
      | error _ => rfl
      | ok h => simp only [h.1.tag, h.1.data]

/-- Both scopes of a message that nothing wraps differ only in what they are stamped with. -/
theorem Reading.outermost_moved (d : Decoder) (block block' : Block) (position position' : Nat)
    (status status' : Status) :
    outermost d block' position' status' =
      (outermost d block position status).moved block' position' status' := by
  unfold outermost Scope.moved
  rw [nestedAt_eq d block' block position' position status' status]

/-- **A stamp does not change what a message is.** In any two blocks, at any two places, executed or
not, a message is refused for one reason or recorded with one content. Entities are kept only of an
executed transaction, and two executed ones in one block keep the same. -/
theorem Message.record_sameContent (d : Decoder) (message : Message) (block block' : Block)
    (position position' : Nat) (status status' : Status) :
    Alike MessageError.SameReason
      (fun r r' ↦ r.SameContent r' ∧ (status = .failed → r.entities = .empty) ∧
        (status = .success → status' = .success → block' = block → r.entities = r'.entities))
      (message.record d block position status) (message.record d block' position' status') := by
  unfold Message.record
  rw [outermost_moved d block block' position position' status status']
  exact message.recordIn_moved (outermost d block position status) block' position' status'

end ChainRecord
