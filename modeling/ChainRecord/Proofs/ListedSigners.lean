import ChainRecord.Proofs.Outcome
import ChainRecord.Reading.Message

/-!
# Whoever signs a message is listed in it

The signers of a message are named by the table of its module, and the addresses in its record by
its reader. Neither looks at the other, and both pick fields by name. Here they are compared: the
signers are among the addresses, in their order and spelled as in the message, also where a text is
empty.

Most readers put the signer in front (`Findings.listsAll_cons`). The others are a transfer from
several accounts, which lists all inputs before the outputs, and a new validator, which signs in
place of a delegator that is left out and is listed behind the account that is put in for it.
-/

namespace ChainRecord

namespace Reading

/-- The texts are among the addresses that were found, in their order. -/
def Findings.ListsAll (texts : List String) (found : Findings) : Prop :=
  texts.Sublist (found.addresses.map (·.address))

/-- Addresses are recorded as they are given. -/
theorem Scope.map_address_addresses (scope : Scope) (refs : List (Record.Role × String)) :
    (scope.addresses refs).map (·.address) = refs.map Prod.snd := by
  simp only [Scope.addresses, List.map_map]
  rfl

variable {scope : Scope} {found : Findings}

theorem Findings.listsAll_of_sublist {refs : List (Record.Role × String)} {texts : List String}
    (hfound : found.addresses = scope.addresses refs) (h : texts.Sublist (refs.map Prod.snd)) :
    found.ListsAll texts := by
  rwa [Findings.ListsAll, hfound, scope.map_address_addresses]

/-- The address in front is listed. -/
theorem Findings.listsAll_cons {role : Record.Role} {text : String}
    {refs : List (Record.Role × String)}
    (hfound : found.addresses = scope.addresses ((role, text) :: refs)) :
    found.ListsAll [text] :=
  listsAll_of_sublist hfound (List.Sublist.cons_cons text (List.nil_sublist _))

end Reading

open Reading

variable {scope : Scope}

/-! ### One module each -/

theorem Bank.read_listsAll (kind : Bank.Kind) (m : kind.Body) :
    (Bank.read scope kind m).ListsAll (kind.signers m) := by
  cases kind with
  | send => exact Findings.listsAll_cons rfl
  | multiSend =>
    refine Findings.listsAll_of_sublist rfl ?_
    rw [List.map_append, List.map_map]
    exact List.sublist_append_left _ _

theorem Blob.read_listsAll (kind : Blob.Kind) (m : kind.Body) :
    Yields (Findings.ListsAll (kind.signers m)) (Blob.read scope kind m) := by
  cases kind with
  | payForBlobs => exact .of_bind fun _ ↦ .ok (Findings.listsAll_cons rfl)

/-- A new validator is signed for by its delegator, who is listed first, or by itself. -/
theorem Staking.createValidator_signers_sublist (d : Decoder) (m : MsgCreateValidator) :
    (Kind.signers .createValidator m).Sublist [delegatorOf d m, m.validatorAddress] := by
  rw [Kind.signers, delegatorOf]
  by_cases habsent : m.delegatorAddress.isEmpty = true
  · rw [if_pos habsent, if_pos habsent]
    exact List.sublist_cons_self _ _
  · rw [if_neg habsent, if_neg habsent]
    exact List.Sublist.cons_cons _ (List.nil_sublist _)

theorem Staking.read_listsAll (kind : Staking.Kind) (m : kind.Body) :
    Yields (Findings.ListsAll (kind.signers m)) (Staking.read scope kind m) := by
  cases kind with
  | createValidator =>
    exact .of_bind fun _ ↦ .ok (Findings.listsAll_of_sublist rfl
      (createValidator_signers_sublist scope.decoder m))
  | editValidator => exact .of_bind fun _ ↦ .ok (Findings.listsAll_cons rfl)
  | delegate | beginRedelegate | undelegate | cancelUnbondingDelegation =>
    exact .ok (Findings.listsAll_cons rfl)

theorem Vesting.read_listsAll (kind : Vesting.Kind) (m : kind.Body) :
    Yields (Findings.ListsAll (kind.signers m)) (Vesting.read scope kind m) := by
  cases kind with
  | createVestingAccount | createPermanentLockedAccount | createPeriodicVestingAccount =>
    exact .of_map fun _ ↦ Findings.listsAll_cons rfl

theorem Feegrant.read_listsAll (kind : Feegrant.Kind) (m : kind.Body) :
    Yields (Findings.ListsAll (kind.signers m)) (Feegrant.read scope kind m) := by
  cases kind with
  | grantAllowance => exact .of_bind fun _ ↦ .ok (Findings.listsAll_cons rfl)
  | revokeAllowance | pruneAllowances => exact .ok (Findings.listsAll_cons rfl)

theorem Authz.read_listsAll (kind : Authz.Kind) (m : kind.Body) :
    Yields (Findings.ListsAll (kind.signers m)) (Authz.read scope kind m) := by
  cases kind with
  | grant => exact .of_bind fun _ ↦ .ok (Findings.listsAll_cons rfl)
  | exec | revoke => exact .ok (Findings.listsAll_cons rfl)

theorem Gov.read_listsAll (kind : Gov.Kind) (m : kind.Body) :
    Yields (Findings.ListsAll (kind.signers m)) (Gov.read scope kind m) := by
  cases kind with
  | submitProposal => exact .of_bind fun _ ↦ .ok (Findings.listsAll_cons rfl)
  | execLegacyContent | vote | voteWeighted | deposit | cancelProposal =>
    exact .ok (Findings.listsAll_cons rfl)

theorem LegacyGov.read_listsAll (kind : LegacyGov.Kind) (m : kind.Body) :
    Yields (Findings.ListsAll (kind.signers m)) (LegacyGov.read scope kind m) := by
  cases kind with
  | submitProposal => exact .of_bind fun _ ↦ .ok (Findings.listsAll_cons rfl)
  | vote | voteWeighted | deposit => exact .ok (Findings.listsAll_cons rfl)

/-- Whatever is found in a packet, the relayer who signs for it is listed first. -/
theorem IbcChannel.readPacket_addresses (signer : String) (flow : IbcChannel.Flow)
    (packet? : Option IbcChannel.Packet) :
    ∃ refs, (IbcChannel.readPacket scope signer flow packet?).addresses =
      scope.addresses ((.signer, signer) :: refs) := by
  rcases IbcChannel.readPacket_cases scope signer flow packet? with
    h | ⟨packet, -, -, h⟩ | ⟨packet, data, -, -, -, h⟩
  · exact ⟨[], by rw [h]; rfl⟩
  · exact ⟨[], by rw [h]⟩
  · exact ⟨IbcChannel.localParties scope.decoder data, by rw [h]⟩

theorem IbcChannel.read_listsAll (kind : IbcChannel.Kind) (m : kind.Body) :
    (IbcChannel.read scope kind m).ListsAll (kind.signers m) := by
  cases kind with
  | recvPacket | timeout | timeoutOnClose | acknowledgement =>
    obtain ⟨refs, hrefs⟩ := IbcChannel.readPacket_addresses _ _ _
    exact Findings.listsAll_cons hrefs
  | openInit | openTry | openAck | openConfirm | closeInit | closeConfirm =>
    exact Findings.listsAll_cons rfl

/-! ### All messages -/

/-- What is found in a message lists all of its signers. -/
theorem Message.read_listsAll (message : Message) :
    Yields (Findings.ListsAll message.signers) (message.read scope) := by
  cases message with
  | unknown any => exact .ok (List.nil_sublist _)
  | known kind m =>
    cases kind with
    | bank kind => exact .ok (Bank.read_listsAll kind m)
    | staking kind => exact Staking.read_listsAll kind m
    | vesting kind => exact Vesting.read_listsAll kind m
    | blob kind => exact Blob.read_listsAll kind m
    | feegrant kind => exact Feegrant.read_listsAll kind m
    | authz kind => exact Authz.read_listsAll kind m
    | gov kind => exact Gov.read_listsAll kind m
    | legacyGov kind => exact LegacyGov.read_listsAll kind m
    | ibcChannel kind => exact .ok (IbcChannel.read_listsAll kind m)
    | slashing kind | distribution kind | blobstream kind | upgrade kind | signal kind
    | circuit kind | ibcClient kind | ibcConnection kind | ibcTransfer kind
    | interchainAccounts kind | mailbox kind | securityModule kind | postDispatch kind | warp kind
    | zkIsm kind | forwarding kind =>
      cases kind <;> exact .ok (Findings.listsAll_cons rfl)

/-- **Nobody signs a message without being listed in it.** The signers of a message that has a
record are among the addresses in it, in their order and spelled as in the message. Of an unknown
message nobody is known to sign, and nobody is listed. -/
theorem Message.signers_sublist_addresses (d : Decoder) (block : Block) (position : Nat)
    (status : Status) :
    (∀ (message : Message) (r : Record.Message), message.record d block position status = .ok r →
        message.signers.Sublist (r.addresses.map (·.address))) ∧
    ∀ any : Any, (Message.unknown any).signers = [] ∧
      ∃ r, (Message.unknown any).record d block position status = .ok r ∧ r.addresses = [] := by
  refine ⟨fun message r hr ↦ ?_, fun any ↦ ⟨rfl, _, rfl, rfl⟩⟩
  obtain ⟨found, hfound, rfl⟩ := Message.recordIn_eq_ok_iff.1 hr
  exact message.read_listsAll found hfound

/-- A transfer from two accounts, the first of which is left empty, to the second. -/
def Message.jointTransfer : Message :=
  .known (.bank .multiSend) ⟨[⟨"", []⟩, ⟨"celestia1a", []⟩], [⟨"celestia1a", []⟩]⟩

/-- Both accounts sign, and the receiver is listed behind them. -/
theorem Message.signers_sublist_addresses_jointTransfer :
    ∃ r, jointTransfer.record {} ⟨100, ⟨1700000000, 0⟩⟩ 0 .success = .ok r ∧
      jointTransfer.signers = ["", "celestia1a"] ∧
      jointTransfer.signers.Sublist (r.addresses.map (·.address)) :=
  ⟨_, rfl, rfl, (signers_sublist_addresses _ _ _ _).1 _ _ rfl⟩

end ChainRecord
