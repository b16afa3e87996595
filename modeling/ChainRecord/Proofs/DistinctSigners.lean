import ChainRecord.Proofs.Address.Canonical
import ChainRecord.Proofs.Outcome
import ChainRecord.Proofs.Signers

/-!
# Which signers are distinct accounts

Signers are told apart by the texts they are kept by, and one account has several texts: in upper
case, with a checksum of the second generation, or with surplus bits. So two of the signers can be
one account. That happens only where the messages of a transaction spell an account in two ways: the
account that is put in for a validator is canonical however the validator is spelled, and two
canonical texts of one account are the same text (`keyOf_eq_iff`).
-/

namespace ChainRecord.Transaction

variable {settings : Settings} {signer : String}

/-- The account that is put in for a signer: that of a validator, if it can be written. -/
def standIn? (settings : Settings) (signer : String) : Option String :=
  (Address.ofText? signer).bind fun a ↦
    if a.humanPart = settings.validatorPrefix then settings.accountOf? signer else none

/-- The text that a signer is kept by: the account that is put in for it, and otherwise itself. -/
def keyOf (settings : Settings) (signer : String) : String :=
  (standIn? settings signer).getD signer

theorem signerEntry_fst_eq (settings : Settings) (signer : String) :
    (signerEntry settings signer).1 = keyOf settings signer := by
  unfold signerEntry keyOf standIn? Settings.accountOf?
  dsimp only [AddressCodec.bech32_decode, AddressCodec.bech32_encode]
  cases Address.ofText? signer with
  | none => rfl
  | some a =>
    by_cases hvalidator : a.humanPart = settings.validatorPrefix
    · simp only [Option.bind_eq_bind, Option.bind_some, if_pos hvalidator]
      cases Address.toText settings.addressPrefix a.bytes <;> rfl
    · simp only [Option.bind_some, if_neg hvalidator]
      rfl

theorem isCanonical_of_standIn? {account : String} (h : standIn? settings signer = some account) :
    Address.IsCanonical account := by
  obtain ⟨a, -, h⟩ := Option.bind_eq_some_iff.1 h
  split at h
  · obtain ⟨b, -, h⟩ := Option.bind_eq_some_iff.1 h
    exact Address.isCanonical_of_toText (toOption_eq_some_iff.1 h)
  · cases h

/-- The address that a signer stands for: that of the account put in for it, or its own. -/
def addressOf? (settings : Settings) (signer : String) : Option Address :=
  Address.ofText? (keyOf settings signer)

/-- A signer is spelled as it would be written, or is a validator for which an account is put in. -/
def IsSettled (settings : Settings) (signer : String) : Prop :=
  (standIn? settings signer).isSome = true ∨ Address.IsCanonical signer

/-- The settled signers are those that are kept by canonical texts. -/
theorem isSettled_iff_isCanonical :
    IsSettled settings signer ↔ Address.IsCanonical (keyOf settings signer) := by
  unfold IsSettled keyOf
  cases haccount : standIn? settings signer with
  | some account => exact iff_of_true (Or.inl rfl) (isCanonical_of_standIn? haccount)
  | none => exact ⟨fun h ↦ h.resolve_left Bool.false_ne_true, Or.inr⟩

/-- A signer that is not settled is kept by itself. -/
theorem keyOf_eq_self (h : ¬ IsSettled settings signer) : keyOf settings signer = signer := by
  unfold keyOf
  cases haccount : standIn? settings signer with
  | some account => exact absurd (Or.inl (by rw [haccount]; rfl)) h
  | none => rfl

/-- Two signers that stand for one address are kept by one text exactly if they are the same text
or both settled. -/
theorem keyOf_eq_iff {signer' : String} {a : Address} (h : addressOf? settings signer = some a)
    (h' : addressOf? settings signer' = some a) :
    keyOf settings signer = keyOf settings signer' ↔
      signer = signer' ∨ (IsSettled settings signer ∧ IsSettled settings signer') := by
  constructor
  · intro hkey
    have hsettled : IsSettled settings signer ↔ IsSettled settings signer' := by
      rw [isSettled_iff_isCanonical, isSettled_iff_isCanonical, hkey]
    by_cases hsigner : IsSettled settings signer
    · exact Or.inr ⟨hsigner, hsettled.1 hsigner⟩
    · rw [keyOf_eq_self hsigner, keyOf_eq_self (mt hsettled.2 hsigner)] at hkey
      exact Or.inl hkey
  · rintro (rfl | ⟨hsettled, hsettled'⟩)
    · rfl
    · exact (isSettled_iff_isCanonical.1 hsettled).eq_of_ofText?
        (isSettled_iff_isCanonical.1 hsettled') h h'

/-- No two texts that signers are kept by denote one address. -/
def HasDistinctAccounts (signers : List (String × Bytes)) : Prop :=
  ∀ p ∈ signers, ∀ q ∈ signers, ∀ a, Address.ofText? p.1 = some a →
    Address.ofText? q.1 = some a → p.1 = q.1

/-- Signers are kept by texts that differ from each other. -/
theorem nodup_signersOf_map_fst (settings : Settings) (signers : List String) :
    ((signersOf settings signers).map Prod.fst).Nodup := by
  refine List.pairwise_map.2 (List.Pairwise.imp ?_ (SortedPairs.isSorted_ofList _))
  exact fun hlt ↦ hlt.ne

/-- **Signers are told apart by their texts.** Each text is kept once. They are distinct accounts
exactly if any two signers that stand for one address are the same text or are both settled: in
lower case, with a checksum of the first generation and without surplus bits, or validators for
which accounts are put in. -/
theorem signersOf_distinctAccounts_iff (settings : Settings) (signers : List String) :
    ((signersOf settings signers).map Prod.fst).Nodup ∧
    (HasDistinctAccounts (signersOf settings signers) ↔
      ∀ s ∈ signers, ∀ t ∈ signers, ∀ a,
        addressOf? settings s = some a → addressOf? settings t = some a →
        s = t ∨ (IsSettled settings s ∧ IsSettled settings t)) := by
  refine ⟨nodup_signersOf_map_fst settings signers, ?_⟩
  constructor
  · intro hdistinct s hs t ht a hsa hta
    refine (keyOf_eq_iff hsa hta).1 ?_
    have hkept {u : String} (hu : u ∈ signers) (hua : addressOf? settings u = some a) :
        signerEntry settings u ∈ signersOf settings signers := by
      refine mem_signersOf_iff.2 ⟨u, hu, ?_, rfl⟩
      rintro rfl
      have hnone : addressOf? settings "" = none := rfl
      exact nomatch hnone.symm.trans hua
    have hkey := hdistinct _ (hkept hs hsa) _ (hkept ht hta) a
    rw [signerEntry_fst_eq, signerEntry_fst_eq] at hkey
    exact hkey hsa hta
  · intro hspelled p hp q hq a hpa hqa
    obtain ⟨s, hs, -, rfl⟩ := mem_signersOf_iff.1 hp
    obtain ⟨t, ht, -, rfl⟩ := mem_signersOf_iff.1 hq
    rw [signerEntry_fst_eq] at hpa hqa ⊢
    rw [signerEntry_fst_eq]
    exact (keyOf_eq_iff hpa hqa).2 (hspelled s hs t ht a hpa hqa)

/-- An account signs once in lower case and once in upper case, and is kept twice. -/
theorem signersOf_upperCase :
    ¬ HasDistinctAccounts (signersOf {}
      ["celestia1j33593mn9urzydakw06jdun8f37shlucmhr8p6",
        "CELESTIA1J33593MN9URZYDAKW06JDUN8F37SHLUCMHR8P6"]) := by
  have hkept : (signersOf {}
      ["celestia1j33593mn9urzydakw06jdun8f37shlucmhr8p6",
        "CELESTIA1J33593MN9URZYDAKW06JDUN8F37SHLUCMHR8P6"]).map Prod.fst =
      ["CELESTIA1J33593MN9URZYDAKW06JDUN8F37SHLUCMHR8P6",
        "celestia1j33593mn9urzydakw06jdun8f37shlucmhr8p6"] := by
    decide +kernel
  have hdenote : Address.ofText? "CELESTIA1J33593MN9URZYDAKW06JDUN8F37SHLUCMHR8P6" =
        Address.ofText? "celestia1j33593mn9urzydakw06jdun8f37shlucmhr8p6" ∧
      (Address.ofText? "celestia1j33593mn9urzydakw06jdun8f37shlucmhr8p6").isSome = true := by
    decide +kernel
  intro hdistinct
  obtain ⟨a, ha⟩ := Option.isSome_iff_exists.1 hdenote.2
  obtain ⟨p, hp, hp'⟩ := List.mem_map.1 (hkept ▸ List.mem_cons_self :
    "CELESTIA1J33593MN9URZYDAKW06JDUN8F37SHLUCMHR8P6" ∈ (signersOf {} _).map Prod.fst)
  obtain ⟨q, hq, hq'⟩ := List.mem_map.1 (hkept ▸ List.mem_cons_of_mem _ List.mem_cons_self :
    "celestia1j33593mn9urzydakw06jdun8f37shlucmhr8p6" ∈ (signersOf {} _).map Prod.fst)
  have hsame := hdistinct p hp q hq a (by rw [hp', hdenote.1, ha]) (by rw [hq', ha])
  rw [hp', hq'] at hsame
  exact absurd hsame (by decide)

end ChainRecord.Transaction
