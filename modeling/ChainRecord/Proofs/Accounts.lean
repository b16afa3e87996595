import ChainRecord.Account
import ChainRecord.Proofs.Address.RoundTrip
import ChainRecord.Proofs.Outcome

/-!
# Accounts keep their bytes

The account of an address is the address written once more, under the human readable part of
accounts (`Settings.accountOf?_eq_some_iff`). Nothing is lost in that: what is written is read back
with its bytes, so the account is decided by the bytes alone and shared by all texts that denote
them, in whichever case, with whichever checksum and under whichever human readable part
(`Settings.accountOf?_eq_iff`).

Only the human readable part may change, because texts are written in lower case. Under one without
letters of upper case, which is the usual one, the account is local and its own account. Under one
with such letters no account is local, since what is read is compared as it was read.
-/

namespace ChainRecord

namespace Address

/-- A text without letters of upper case is its own lower case. -/
theorem lowerChars_of_not_isUpper {cs : List Char} (h : ∀ c ∈ cs, c.isUpper = false) :
    lowerChars cs = cs := by
  have hsame : ∀ c ∈ cs, c.toLower = id c := fun c hc ↦ dif_neg (of_decide_eq_false (h c hc))
  rw [lowerChars, List.map_congr_left hsame, List.map_id]

end Address

namespace Settings

variable {settings : Settings} {text text' account account' : String}

/-- The account of a text is what is written for its bytes. -/
theorem accountOf?_eq_some_iff :
    settings.accountOf? text = some account ↔
      ∃ a, Address.ofText? text = some a ∧
        Address.toText settings.addressPrefix a.bytes = .ok account := by
  rw [accountOf?, Option.bind_eq_bind, Option.bind_eq_some_iff]
  simp only [toOption_eq_some_iff, AddressCodec.bech32_decode, AddressCodec.bech32_encode]

theorem toText_of_accountOf? {a : Address} (hread : Address.ofText? text = some a)
    (h : settings.accountOf? text = some account) :
    Address.toText settings.addressPrefix a.bytes = .ok account := by
  obtain ⟨b, hb, hwrite⟩ := accountOf?_eq_some_iff.1 h
  obtain rfl := Option.some.inj (hread.symm.trans hb)
  exact hwrite

/-- The account has the bytes of the text. -/
theorem ofText?_of_accountOf? {a : Address} (hread : Address.ofText? text = some a)
    (h : settings.accountOf? text = some account) : Address.ofText? account =
      some ⟨String.ofList (Address.lowerChars settings.addressPrefix.toList), a.bytes⟩ :=
  Address.ofText?_of_toText (toText_of_accountOf? hread h)

theorem hashOf_of_accountOf? {a : Address} (hread : Address.ofText? text = some a)
    (h : settings.accountOf? text = some account) :
    AddressCodec.bech32.hashOf account = a.bytes := by
  rw [AddressCodec.hashOf, AddressCodec.bech32_decode, ofText?_of_accountOf? hread h]

/-- The account is its own account. -/
theorem accountOf?_of_accountOf? (h : settings.accountOf? text = some account) :
    settings.accountOf? account = some account := by
  obtain ⟨a, -, hwrite⟩ := accountOf?_eq_some_iff.1 h
  exact accountOf?_eq_some_iff.2 ⟨_, Address.ofText?_of_toText hwrite, hwrite⟩

/-- Two texts have one account exactly if they denote the same bytes. -/
theorem accountOf?_eq_iff {a a' : Address} (hread : Address.ofText? text = some a)
    (hread' : Address.ofText? text' = some a') (h : settings.accountOf? text = some account)
    (h' : settings.accountOf? text' = some account') : account = account' ↔ a.bytes = a'.bytes := by
  constructor
  · rintro rfl
    rw [← hashOf_of_accountOf? hread h, hashOf_of_accountOf? hread' h']
  · intro hbytes
    have hwrite := toText_of_accountOf? hread h
    rw [hbytes, toText_of_accountOf? hread' h'] at hwrite
    exact Except.ok.inj hwrite.symm

/-- What an account is to the text that it is the account of. -/
structure IsAccountOf (settings : Settings) (text account : String) : Prop where
  /-- The text denotes the bytes that the account denotes, under the human readable part of
  accounts. -/
  denotes : ∃ a, Address.ofText? text = some a ∧
    Address.ofText? account = some ⟨settings.addressPrefix, a.bytes⟩
  isLocal : settings.isLocal account = true
  own : settings.accountOf? account = some account

theorem isAccountOf_of_accountOf? (hlower : ∀ c ∈ settings.addressPrefix.toList, c.isUpper = false)
    (h : settings.accountOf? text = some account) : IsAccountOf settings text account := by
  obtain ⟨a, hread, -⟩ := accountOf?_eq_some_iff.1 h
  have haccount := ofText?_of_accountOf? hread h
  rw [Address.lowerChars_of_not_isUpper hlower, String.ofList_toList] at haccount
  refine ⟨⟨a, hread, haccount⟩, ?_, accountOf?_of_accountOf? h⟩
  rw [isLocal, AddressCodec.bech32_decode, haccount]
  exact beq_self_eq_true settings.addressPrefix

end Settings

/-- **Addresses lose nothing.** Whatever the human readable part is and whatever the bytes are, the
text that is written denotes the bytes under the human readable part in lower case. So, where the
human readable part of accounts has no letters of upper case, the account of a text denotes the
bytes of the text under that part, is local and is its own account; and two texts have one account
exactly if they denote the same bytes. -/
theorem Address.conversion_lossless :
    (∀ humanPart bytes text, toText humanPart bytes = .ok text →
      ofText? text = some ⟨String.ofList (lowerChars humanPart.toList), bytes⟩) ∧
    ∀ settings : Settings, (∀ c ∈ settings.addressPrefix.toList, c.isUpper = false) →
      (∀ text account, settings.accountOf? text = some account →
        settings.IsAccountOf text account) ∧
      ∀ text text' account account' a a', settings.accountOf? text = some account →
        settings.accountOf? text' = some account' → ofText? text = some a →
        ofText? text' = some a' → (account = account' ↔ a.bytes = a'.bytes) := by
  refine ⟨fun humanPart bytes text h ↦ ofText?_of_toText h, fun settings hlower ↦ ⟨?_, ?_⟩⟩
  · intro text account h
    exact Settings.isAccountOf_of_accountOf? hlower h
  · intro text text' account account' a a' h h' hread hread'
    exact Settings.accountOf?_eq_iff hread hread' h h'

/-- The bytes of a validator. -/
def Address.operatorBytes : Bytes :=
  [62, 69, 76, 83, 90, 97, 104, 111, 118, 125, 132, 139, 146, 153, 160, 167, 174, 181, 188, 195]

/-- A human readable part in upper case is written in lower case. A validator in upper case has a
local account, which is not that of an address with other bytes. -/
theorem Address.conversion_lossless_operator :
    toText "CELESTIA" operatorBytes = .ok "celestia18ez5c566v95x7anasj9e9xdq57htt0xrpdcqnh" ∧
    ofText? "celestia18ez5c566v95x7anasj9e9xdq57htt0xrpdcqnh" =
      some ⟨"celestia", operatorBytes⟩ ∧
    Settings.IsAccountOf {} "CELESTIAVALOPER18EZ5C566V95X7ANASJ9E9XDQ57HTT0XRYJ6E93"
      "celestia18ez5c566v95x7anasj9e9xdq57htt0xrpdcqnh" ∧
    ("celestia18ez5c566v95x7anasj9e9xdq57htt0xrpdcqnh" =
        "celestia1qqqsyqcyq5rqwzqfpg9scrgwpugpzysnjuq2t5" ↔
      operatorBytes =
        [0, 1, 2, 3, 4, 5, 6, 7, 8, 9, 10, 11, 12, 13, 14, 15, 16, 17, 18, 19]) := by
  obtain ⟨hwritten, haccounts⟩ := conversion_lossless
  obtain ⟨haccount, hsame⟩ := haccounts {} (by simp)
  have hwrite : toText "CELESTIA" operatorBytes =
      .ok "celestia18ez5c566v95x7anasj9e9xdq57htt0xrpdcqnh" := by
    decide +kernel
  have hoperator : Settings.accountOf? {}
      "CELESTIAVALOPER18EZ5C566V95X7ANASJ9E9XDQ57HTT0XRYJ6E93" =
        some "celestia18ez5c566v95x7anasj9e9xdq57htt0xrpdcqnh" := by
    decide +kernel
  have hforeign : Settings.accountOf? {} "osmo1qqqsyqcyq5rqwzqfpg9scrgwpugpzysntdz28t" =
      some "celestia1qqqsyqcyq5rqwzqfpg9scrgwpugpzysnjuq2t5" := by
    decide +kernel
  exact ⟨hwrite, hwritten _ _ _ hwrite, haccount _ _ hoperator,
    hsame _ _ _ _ ⟨"celestiavaloper", _⟩ ⟨"osmo", _⟩ hoperator hforeign (by decide +kernel)
      (by decide +kernel)⟩

end ChainRecord
