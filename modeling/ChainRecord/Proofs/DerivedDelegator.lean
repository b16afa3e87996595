import ChainRecord.Proofs.Accounts
import ChainRecord.Proofs.Signers
import ChainRecord.Reading.Message

/-!
# Who delegates to a new validator

The message that creates a validator may leave out the account that delegates to it. What is put in
for it is the account of the validator, and the same validator signs in its place. The two are
derived apart from each other. The reader takes the account of any address, whatever its human
readable part is; a signer is replaced by its account only if it is a validator.

So the account that is recorded is the signer exactly if the address is that of a validator or is
the account already (`Staking.delegator_isSigner_iff`). The account of any other address, such as
one of another chain, is recorded as that of a delegator who neither signs nor occurs in the message
(`Staking.delegator_of_otherChain`).
-/

namespace ChainRecord

open Reading

namespace Transaction

variable {settings : Settings} {signer account : String}

/-- One signer is kept by itself. -/
theorem signersOf_singleton (settings : Settings) (h : signer ≠ "") :
    signersOf settings [signer] = [signerEntry settings signer] := by
  have hkept : [signer].filter (!·.isEmpty) = [signer] := by simp [h]
  rw [signersOf, hkept]
  rfl

/-- A signer that has an account is kept by the account if it is a validator, and otherwise by
itself. -/
theorem signerEntry_of_accountOf? {a : Address} (hread : Address.ofText? signer = some a)
    (h : settings.accountOf? signer = some account) :
    signerEntry settings signer =
      (if a.humanPart = settings.validatorPrefix then account else signer, a.bytes) := by
  rw [signerEntry]
  dsimp only [AddressCodec.bech32_decode, AddressCodec.bech32_encode]
  rw [hread]
  dsimp only
  rw [Settings.toText_of_accountOf? hread h]
  by_cases hvalidator : a.humanPart = settings.validatorPrefix
  · rw [if_pos hvalidator, if_pos hvalidator]
  · rw [if_neg hvalidator, if_neg hvalidator]

/-- Of a signer that has an account, only the account is kept exactly if the signer is a validator
or is the account already. -/
theorem signersOf_eq_account_iff {a : Address} (hread : Address.ofText? signer = some a)
    (h : settings.accountOf? signer = some account) :
    signersOf settings [signer] = [(account, a.bytes)] ↔
      a.humanPart = settings.validatorPrefix ∨ signer = account := by
  have hsigner : signer ≠ "" := by
    rintro rfl
    have hnone : Address.ofText? "" = none := rfl
    rw [hnone] at hread
    cases hread
  rw [signersOf_singleton settings hsigner, signerEntry_of_accountOf? hread h]
  by_cases hvalidator : a.humanPart = settings.validatorPrefix
  · simp [hvalidator]
  · simp [hvalidator]

end Transaction

namespace Staking

variable {d : Decoder} {settings : Settings} {block : Block} {position : Nat} {status : Status}
  {m : MsgCreateValidator} {r : Record.Message}

/-- The record of a message that creates a validator names a delegator: in front of the addresses
and, if the transaction was executed, in the entry of the validator. -/
structure RecordsDelegator (status : Status) (r : Record.Message) (delegator : Record.Address) :
    Prop where
  listed : ∃ validator, r.addresses = [delegator, validator]
  role : delegator.role = .delegator
  entry : status = .success → ∃ v, r.entities.validator = some v ∧ v.delegator = delegator.address
  noEntry : status = .failed → r.entities.validator = none

/-- The delegator is the one in front. -/
theorem RecordsDelegator.eq {delegator delegator' : Record.Address}
    (h : RecordsDelegator status r delegator) (h' : RecordsDelegator status r delegator') :
    delegator = delegator' := by
  obtain ⟨_, hlisted⟩ := h.listed
  obtain ⟨_, hlisted'⟩ := h'.listed
  exact (List.cons.inj (hlisted.symm.trans hlisted')).1

/-- How a validator presents itself has no say in who delegates to it. -/
@[simp] theorem describe_delegator (validator : Record.Validator)
    (description : Option Description) :
    (describe validator description).delegator = validator.delegator := by
  cases description <;> rfl

theorem createdValidator_delegator (scope : Scope) (m : MsgCreateValidator) :
    Yields (fun v ↦ v.delegator = delegatorOf scope.decoder m) (createdValidator scope m) := by
  unfold createdValidator
  cases m.value
  all_goals
    refine .of_bind fun _ ↦ .of_bind fun _ ↦ .of_bind fun _ ↦ .of_bind fun _ ↦ .of_bind fun _ ↦ ?_
    exact .ok (describe_delegator _ _)

/-- The account that is put in for a delegator is the one that is recorded. -/
theorem recordsDelegator_of_record
    (h : Message.record d block (.known (.staking .createValidator) m) position status = .ok r) :
    RecordsDelegator status r (addressIn d block .delegator (delegatorOf d m)) := by
  obtain ⟨found, hfound, rfl⟩ := Message.recordIn_eq_ok_iff.1 h
  obtain ⟨v, hv, hok⟩ := bind_eq_ok_iff.1 hfound
  obtain rfl := Except.ok.inj hok
  refine ⟨⟨_, rfl⟩, rfl, ?_, ?_⟩
  · rintro rfl
    exact ⟨v, rfl, createdValidator_delegator _ m v hv⟩
  · rintro rfl
    rfl

/-- A validator signs for the delegator that is left out. -/
theorem signers_of_absent (h : m.delegatorAddress = "") :
    (Message.known (.staking .createValidator) m).signers = [m.validatorAddress] := by
  show Kind.signers .createValidator m = [m.validatorAddress]
  rw [Kind.signers, h]
  rfl

/-- What is put in for the delegator, if it is not empty, is the account of the validator. -/
theorem accountOf?_of_delegatorOf_ne (habsent : m.delegatorAddress = "")
    (h : delegatorOf settings m ≠ "") :
    settings.accountOf? m.validatorAddress = some (delegatorOf settings m) := by
  have hderived : delegatorOf settings m = (settings.accountOf? m.validatorAddress).getD "" := by
    rw [delegatorOf, habsent]
    rfl
  cases haccount : settings.accountOf? m.validatorAddress with
  | some account => rw [hderived, haccount, Option.getD_some]
  | none =>
    rw [haccount] at hderived
    exact absurd hderived h

/-- **A derived delegator is the signer where the validator is one.** The message leaves out the
delegator and names the validator by an address. If an account is recorded as that of the delegator,
it has the bytes of the validator, and it is the one signer exactly if the address has the human
readable part of validators or is that account. -/
theorem delegator_isSigner_iff (settings : Settings) (block : Block) (position : Nat)
    (status : Status) (m : MsgCreateValidator) (r : Record.Message) (a : Address)
    (habsent : m.delegatorAddress = "") (hread : Address.ofText? m.validatorAddress = some a)
    (h : Message.record settings block (.known (.staking .createValidator) m) position status =
      .ok r) :
    ∃ delegator, RecordsDelegator status r delegator ∧ (delegator.address ≠ "" →
      delegator.hash = a.bytes ∧
      (Transaction.signersOf settings (Message.known (.staking .createValidator) m).signers =
          [(delegator.address, delegator.hash)] ↔
        a.humanPart = settings.validatorPrefix ∨ m.validatorAddress = delegator.address)) := by
  refine ⟨_, recordsDelegator_of_record h, fun hne ↦ ?_⟩
  show AddressCodec.bech32.hashOf (delegatorOf settings m) = a.bytes ∧
    (_ = [(delegatorOf settings m, AddressCodec.bech32.hashOf (delegatorOf settings m))] ↔
      _ ∨ m.validatorAddress = delegatorOf settings m)
  have haccount := accountOf?_of_delegatorOf_ne habsent hne
  rw [signers_of_absent habsent, Settings.hashOf_of_accountOf? hread haccount]
  exact ⟨rfl, Transaction.signersOf_eq_account_iff hread haccount⟩

/-- A validator without a delegator. -/
def newValidator (address : String) : MsgCreateValidator :=
  ⟨none, none, "", "", address, none, none⟩

theorem exists_record_newValidator (address : String) :
    ∃ r, Message.record {} ⟨100, ⟨1700000000, 0⟩⟩
      (.known (.staking .createValidator) (newValidator address)) 0 .success = .ok r :=
  ⟨_, rfl⟩

/-- The account of a validator is recorded as the delegator, and signs. -/
theorem delegator_isSigner_iff_operator :
    ∃ r delegator, Message.record {} ⟨100, ⟨1700000000, 0⟩⟩
        (.known (.staking .createValidator)
          (newValidator "celestiavaloper18ez5c566v95x7anasj9e9xdq57htt0xryj6e93")) 0 .success =
        .ok r ∧
      RecordsDelegator .success r delegator ∧
      delegator.address = "celestia18ez5c566v95x7anasj9e9xdq57htt0xrpdcqnh" ∧
      Transaction.signersOf {} (Message.known (.staking .createValidator)
        (newValidator "celestiavaloper18ez5c566v95x7anasj9e9xdq57htt0xryj6e93")).signers =
          [(delegator.address, delegator.hash)] := by
  obtain ⟨r, hr⟩ :=
    exists_record_newValidator "celestiavaloper18ez5c566v95x7anasj9e9xdq57htt0xryj6e93"
  obtain ⟨delegator, hrecorded, hsigner⟩ := delegator_isSigner_iff {} _ _ _ _ r
    ⟨"celestiavaloper", Address.operatorBytes⟩ rfl (by decide +kernel) hr
  have haddress : delegator.address = "celestia18ez5c566v95x7anasj9e9xdq57htt0xrpdcqnh" := by
    rw [hrecorded.eq (recordsDelegator_of_record hr)]
    decide +kernel
  have hne : delegator.address ≠ "" := by
    rw [haddress]
    decide
  exact ⟨r, delegator, hr, hrecorded, haddress, (hsigner hne).2.2 (Or.inl rfl)⟩

/-- An address of another chain is named in place of a validator. Its account on this chain is
recorded as the delegator, and the address itself signs. -/
theorem delegator_of_otherChain :
    ∃ r delegator, Message.record {} ⟨100, ⟨1700000000, 0⟩⟩
        (.known (.staking .createValidator)
          (newValidator "osmo1qqqsyqcyq5rqwzqfpg9scrgwpugpzysntdz28t")) 0 .success = .ok r ∧
      RecordsDelegator .success r delegator ∧
      delegator.address = "celestia1qqqsyqcyq5rqwzqfpg9scrgwpugpzysnjuq2t5" ∧
      Transaction.signersOf {} (Message.known (.staking .createValidator)
        (newValidator "osmo1qqqsyqcyq5rqwzqfpg9scrgwpugpzysntdz28t")).signers =
          [("osmo1qqqsyqcyq5rqwzqfpg9scrgwpugpzysntdz28t", delegator.hash)] := by
  obtain ⟨r, hr⟩ := exists_record_newValidator "osmo1qqqsyqcyq5rqwzqfpg9scrgwpugpzysntdz28t"
  exact ⟨r, _, hr, recordsDelegator_of_record hr, by decide +kernel, by decide +kernel⟩

end Staking

end ChainRecord
