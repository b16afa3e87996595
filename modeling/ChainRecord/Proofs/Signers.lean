import ChainRecord.Proofs.Address.RoundTrip
import ChainRecord.Proofs.SortedPairs
import ChainRecord.Reading.Scope
import ChainRecord.Transaction.Signers

/-!
# Signers are a set

Signers are kept by the texts of their accounts, and each text is kept with the bytes it denotes
(`hashOf_signerEntry`). For a text that is kept as it is there is nothing to show; for the account
of a validator it is the round trip of addresses, which holds whatever the prefixes of the chain
are.

So colliding texts never disagree, and the signers of a transaction are decided by which texts its
messages name (`signersOf_eq_of_mem_iff`). An account that was put in for a validator stands for
itself, also where accounts and validators have the same prefix, so nothing changes when the signers
are taken once more (`signerEntry_fst`).
-/

namespace ChainRecord.Transaction

open Reading

variable {settings : Settings}

/-! ### One signer -/

/-- What a signer is kept as: itself with its bytes, or, for a validator whose account can be
written, the account. -/
theorem signerEntry_cases (d : Decoder) (signer : String) :
    signerEntry d signer = (signer, d.addressCodec.hashOf signer) ∨
      ∃ a account, d.addressCodec.decode signer = some a ∧
        a.humanPart = d.settings.validatorPrefix ∧
        d.addressCodec.encode d.settings.addressPrefix a.bytes = .ok account ∧
        signerEntry d signer = (account, a.bytes) := by
  unfold signerEntry AddressCodec.hashOf
  cases hread : d.addressCodec.decode signer with
  | none => exact Or.inl rfl
  | some a =>
    dsimp only
    by_cases hvalidator : a.humanPart = d.settings.validatorPrefix
    · rw [if_pos hvalidator]
      cases hwrite : d.addressCodec.encode d.settings.addressPrefix a.bytes with
      | error e => exact Or.inl rfl
      | ok account => exact Or.inr ⟨a, account, rfl, hvalidator, hwrite, rfl⟩
    · exact Or.inl (if_neg hvalidator)

/-- **A signer is kept with the bytes that its text denotes.** -/
theorem hashOf_signerEntry (settings : Settings) (signer : String) :
    (signerEntry settings signer).2 =
      AddressCodec.bech32.hashOf (signerEntry settings signer).1 := by
  rcases signerEntry_cases settings signer with h | ⟨a, account, -, -, hwrite, h⟩
  · rw [h]
  · rw [h, AddressCodec.hashOf, AddressCodec.bech32_decode, Address.ofText?_of_toText hwrite]

/-- A signer that was kept is kept as it is. -/
theorem signerEntry_fst (settings : Settings) (signer : String) :
    signerEntry settings (signerEntry settings signer).1 = signerEntry settings signer := by
  rcases signerEntry_cases settings signer with h | ⟨a, account, hread, hvalidator, hwrite, h⟩
  · rw [h, h]
  · have haccount := Address.ofText?_of_toText hwrite
    rw [h, signerEntry, AddressCodec.bech32_decode, haccount]
    dsimp only
    -- where accounts have the prefix of validators, the account is its own account
    split
    · rw [hwrite]
    · rfl

theorem signerEntry_fst_ne_empty {signer : String} (h : signer ≠ "") :
    (signerEntry settings signer).1 ≠ "" := by
  rcases signerEntry_cases settings signer with h' | ⟨a, account, -, -, hwrite, h'⟩
  · rw [h']
    exact h
  · rw [h']
    rintro rfl
    have hempty : Address.ofText? "" = none := by decide
    rw [Address.ofText?_of_toText hwrite] at hempty
    cases hempty

/-- The bytes in the record of an address are those it denotes. -/
@[simp] theorem addressIn_hash (d : Decoder) (block : Block) (role : Record.Role)
    (address : String) : (addressIn d block role address).hash = d.addressCodec.hashOf address :=
  rfl

/-! ### All signers -/

/-- The texts that name a signer. -/
def entriesOf (settings : Settings) (signers : List String) : List (String × Bytes) :=
  (signers.filter (!·.isEmpty)).map (signerEntry settings)

theorem signersOf_eq (settings : Settings) (signers : List String) :
    signersOf settings signers = SortedPairs.ofList (entriesOf settings signers) := rfl

theorem mem_entriesOf_iff {signers : List String} {p : String × Bytes} :
    p ∈ entriesOf settings signers ↔
      ∃ signer ∈ signers, signer ≠ "" ∧ signerEntry settings signer = p := by
  simp [entriesOf, and_assoc]

theorem isFunctional_entriesOf (settings : Settings) (signers : List String) :
    SortedPairs.IsFunctional (entriesOf settings signers) := by
  refine ⟨AddressCodec.bech32.hashOf, fun p hp ↦ ?_⟩
  obtain ⟨signer, -, -, rfl⟩ := mem_entriesOf_iff.1 hp
  exact hashOf_signerEntry settings signer

theorem mem_signersOf_iff {signers : List String} {p : String × Bytes} :
    p ∈ signersOf settings signers ↔
      ∃ signer ∈ signers, signer ≠ "" ∧ signerEntry settings signer = p := by
  rw [signersOf_eq, SortedPairs.mem_ofList_iff (isFunctional_entriesOf settings signers),
    mem_entriesOf_iff]

/-- Signers are decided by what the texts are kept as. -/
theorem signersOf_eq_of_mem_iff {signers signers' : List String}
    (h : ∀ p, p ∈ entriesOf settings signers ↔ p ∈ entriesOf settings signers') :
    signersOf settings signers = signersOf settings signers' := by
  rw [signersOf_eq, signersOf_eq]
  exact SortedPairs.ofList_eq_of_mem_iff (isFunctional_entriesOf settings signers) h

theorem mem_entriesOf_congr {signers signers' : List String}
    (h : ∀ signer, signer ≠ "" → (signer ∈ signers ↔ signer ∈ signers')) (p : String × Bytes) :
    p ∈ entriesOf settings signers ↔ p ∈ entriesOf settings signers' := by
  rw [mem_entriesOf_iff, mem_entriesOf_iff]
  constructor
  · rintro ⟨signer, hmem, hne, heq⟩
    exact ⟨signer, (h signer hne).1 hmem, hne, heq⟩
  · rintro ⟨signer, hmem, hne, heq⟩
    exact ⟨signer, (h signer hne).2 hmem, hne, heq⟩

/-- The texts that signers are kept as name the same signers. -/
theorem mem_entriesOf_map_fst_iff {signers : List String} (p : String × Bytes) :
    p ∈ entriesOf settings ((signersOf settings signers).map Prod.fst) ↔
      p ∈ entriesOf settings signers := by
  rw [mem_entriesOf_iff, mem_entriesOf_iff]
  constructor
  · rintro ⟨account, hmem, -, rfl⟩
    obtain ⟨q, hq, rfl⟩ := List.mem_map.1 hmem
    obtain ⟨signer, hsigner, hne, rfl⟩ := mem_signersOf_iff.1 hq
    exact ⟨signer, hsigner, hne, (signerEntry_fst settings signer).symm⟩
  · rintro ⟨signer, hsigner, hne, rfl⟩
    have hq : signerEntry settings signer ∈ signersOf settings signers :=
      mem_signersOf_iff.2 ⟨signer, hsigner, hne, rfl⟩
    exact ⟨_, List.mem_map_of_mem hq, signerEntry_fst_ne_empty hne,
      signerEntry_fst settings signer⟩

/-- **Signers are a set.** A text that names a signer is kept with the bytes it denotes, which are
also those in the record of the address, and none is lost. Lists with the same texts have the same
signers, whatever their order and repetitions are, and so has the list of the signers itself. -/
theorem signersOf_isSet (settings : Settings) (signers : List String) :
    (∀ p ∈ signersOf settings signers, p.2 = AddressCodec.bech32.hashOf p.1 ∧
      ∀ block role, (addressIn settings block role p.1).hash = p.2) ∧
    (∀ signer ∈ signers, signer ≠ "" →
      signerEntry settings signer ∈ signersOf settings signers) ∧
    (∀ signers', (∀ signer, signer ≠ "" → (signer ∈ signers ↔ signer ∈ signers')) →
      signersOf settings signers = signersOf settings signers') ∧
    signersOf settings ((signersOf settings signers).map Prod.fst) =
      signersOf settings signers := by
  refine ⟨fun p hp ↦ ?_, fun signer hmem hne ↦ ?_, fun signers' hsame ↦ ?_, ?_⟩
  · obtain ⟨signer, -, -, rfl⟩ := mem_signersOf_iff.1 hp
    have hhash := hashOf_signerEntry settings signer
    refine ⟨hhash, fun block role ↦ ?_⟩
    rw [addressIn_hash, hhash]
  · exact mem_signersOf_iff.2 ⟨signer, hmem, hne, rfl⟩
  · exact signersOf_eq_of_mem_iff (mem_entriesOf_congr hsame)
  · exact signersOf_eq_of_mem_iff mem_entriesOf_map_fst_iff

/-- The bytes of a validator. -/
def validatorBytes : Bytes :=
  [62, 69, 76, 83, 90, 97, 104, 111, 118, 125, 132, 139, 146, 153, 160, 167, 174, 181, 188, 195]

/-- A validator and a text that is no address sign. The account of the validator stands for it, and
naming the two once more in another order makes no difference. -/
theorem signersOf_isSet_validator :
    ("celestia18ez5c566v95x7anasj9e9xdq57htt0xrpdcqnh", validatorBytes) ∈
      signersOf {} ["celestiavaloper18ez5c566v95x7anasj9e9xdq57htt0xryj6e93", "nobody"] ∧
    validatorBytes = AddressCodec.bech32.hashOf "celestia18ez5c566v95x7anasj9e9xdq57htt0xrpdcqnh" ∧
    signersOf {} ["celestiavaloper18ez5c566v95x7anasj9e9xdq57htt0xryj6e93", "nobody"] =
      signersOf {} ["nobody", "", "celestiavaloper18ez5c566v95x7anasj9e9xdq57htt0xryj6e93",
        "nobody"] := by
  obtain ⟨hbytes, hkept, hsame, -⟩ :=
    signersOf_isSet {} ["celestiavaloper18ez5c566v95x7anasj9e9xdq57htt0xryj6e93", "nobody"]
  have hentry : signerEntry {} "celestiavaloper18ez5c566v95x7anasj9e9xdq57htt0xryj6e93" =
      ("celestia18ez5c566v95x7anasj9e9xdq57htt0xrpdcqnh", validatorBytes) := by
    decide +kernel
  have hmem := hkept "celestiavaloper18ez5c566v95x7anasj9e9xdq57htt0xryj6e93" (by simp) (by decide)
  rw [hentry] at hmem
  refine ⟨hmem, (hbytes _ hmem).1, hsame _ fun signer hne ↦ ?_⟩
  simp only [List.mem_cons, List.not_mem_nil, or_false, hne, false_or]
  constructor
  · rintro (h | h)
    · exact Or.inr (Or.inl h)
    · exact Or.inl h
  · rintro (h | h | h)
    · exact Or.inr h
    · exact Or.inl h
    · exact Or.inr h

end ChainRecord.Transaction
