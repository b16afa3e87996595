import ChainRecord.Proofs.ChannelCounters
import ChainRecord.Proofs.Json.Exactness
import ChainRecord.Proofs.NumeralScale
import ChainRecord.Proofs.WrappedMessages
import Mathlib.Tactic.FieldSimp

/-!
# Payloads of transfers

The payload of a transfer is a text of a JSON object with five strings: an amount, a denomination,
the two parties and a memo. Every such text is read back (`transfer_read_back`), whatever the
strings are, whichever way their characters are written, and whatever else is in the object. The
parties and the memo are as they were, the denomination is without the trace of its channel, and the
amount is the number that its digits are written for.

An amount may be of any length. It is read in two steps, first the characters of an amount up to the
unit behind it, and then the number; nothing is behind it here (`splitAmount_of_isAmount`), and the
number keeps all its digits (`value_of_isAmount`).
-/

namespace ChainRecord.Numeral

/-! ### Amounts -/

/-- Digits, and optionally a point and further digits, are written for a number. -/
inductive IsAmount : List Char → ℚ → Prop
  /-- A whole number. -/
  | whole {digits : List Char} : IsDigits digits → IsAmount digits (numberOf digits)
  /-- Each digit behind the point counts a tenth of what it would count before. -/
  | decimal {whole fraction : List Char} : IsDigits whole → IsDigits fraction →
      IsAmount (whole ++ '.' :: fraction)
        (numberOf whole + numberOf fraction / 10 ^ fraction.length)

/-- Of an amount all digits are kept, and the sign in front of it. -/
theorem value_of_signed_isAmount (negative : Bool) {cs : List Char} {q : ℚ} (h : IsAmount cs q) :
    ∃ x, decimalOfChars? (signText negative ++ cs) = some x ∧
      x.value = if negative then -q else q := by
  cases h with
  | whole hdigits =>
    refine ⟨_, decimalOfChars?_of_isWritten (isWritten_signText negative hdigits), ?_⟩
    cases negative <;> simp [signed]
  | @decimal whole fraction hwhole hfraction =>
    have hwritten := isWrittenAt_signText negative hwhole hfraction
    refine ⟨_, decimalOfChars?_eq_some_iff.2 ⟨_, _, hwritten, rfl⟩, ?_⟩
    have hten : (10 : ℚ) ^ fraction.length ≠ 0 := pow_ne_zero _ (by norm_num)
    rw [Decimal.value_natCast_scale, numberOf_append]
    cases negative with
    | true =>
      rw [signed, if_pos rfl, if_pos rfl]
      push_cast
      field_simp
    | false =>
      rw [signed, if_neg Bool.false_ne_true, if_neg Bool.false_ne_true]
      push_cast
      field_simp

/-- Of an amount all digits are kept. -/
theorem value_of_isAmount {cs : List Char} {q : ℚ} (h : IsAmount cs q) :
    ∃ x, decimalOfChars? cs = some x ∧ x.value = q :=
  value_of_signed_isAmount false h

/-! ### Amounts and units -/

/-- A character that an amount may have, with its sign. -/
def IsAmountChar (c : Char) : Prop :=
  ('0' ≤ c ∧ c ≤ '9') ∨ c = '.' ∨ c = '-'

instance (c : Char) : Decidable (IsAmountChar c) :=
  inferInstanceAs (Decidable (_ ∨ _))

theorem isAmountChar_iff {c : Char} : CoinAmount.isAmountChar c = true ↔ IsAmountChar c := by
  simp [CoinAmount.isAmountChar, IsAmountChar, Char.isDigit, Char.le_def, or_assoc]

theorem IsDigits.isAmountChar {cs : List Char} (h : IsDigits cs) : ∀ c ∈ cs, IsAmountChar c :=
  fun c hc ↦ Or.inl (h.2 c hc)

theorem IsAmount.isAmountChar {cs : List Char} {q : ℚ} (h : IsAmount cs q) :
    ∀ c ∈ cs, IsAmountChar c := by
  cases h with
  | whole hdigits => exact hdigits.isAmountChar
  | decimal hwhole hfraction =>
    simp only [List.mem_append, List.mem_cons]
    rintro c (hc | rfl | hc)
    · exact hwhole.isAmountChar c hc
    · exact Or.inr (Or.inl rfl)
    · exact hfraction.isAmountChar c hc

/-- The unit is split off where it begins. -/
theorem splitAmount_append {amount unit : List Char} (hamount : ∀ c ∈ amount, IsAmountChar c)
    (hunit : ∀ c ∈ unit.head?, ¬ IsAmountChar c) :
    CoinAmount.splitAmount (amount ++ unit) = (amount, unit) := by
  have hall : ∀ c ∈ amount, CoinAmount.isAmountChar c = true :=
    fun c hc ↦ isAmountChar_iff.2 (hamount c hc)
  rw [CoinAmount.splitAmount, List.span_eq_takeWhile_dropWhile,
    List.takeWhile_append_of_pos hall, List.dropWhile_append_of_pos hall]
  cases unit with
  | nil => simp
  | cons c unit =>
    have hc : ¬ CoinAmount.isAmountChar c = true :=
      fun hc ↦ hunit c rfl (isAmountChar_iff.1 hc)
    simp [List.takeWhile_cons_of_neg hc, List.dropWhile_cons_of_neg hc]

/-- Nothing is left behind an amount. -/
theorem splitAmount_of_isAmount {cs : List Char} {q : ℚ} (h : IsAmount cs q) :
    CoinAmount.splitAmount cs = (cs, []) := by
  have hsplit := @splitAmount_append cs [] h.isAmountChar (by simp)
  rwa [List.append_nil] at hsplit

theorem IsAmount.ne_nil {cs : List Char} {q : ℚ} (h : IsAmount cs q) : cs ≠ [] := by
  cases h with
  | whole hdigits => exact hdigits.1
  | decimal _ _ => simp

/-- An attribute that is an amount is read as the number it is written for. -/
theorem IsAmount.exists_decimal {members : Json.Members} {key s : String} {q : ℚ}
    (h : IsAmount s.toList q) (hbinds : Json.Binds members key (.string s)) :
    ∃ x, Attributes.decimal members key = .ok x ∧ x.value = q := by
  obtain ⟨x, hx, hvalue⟩ := value_of_isAmount h
  refine ⟨x, ?_, hvalue⟩
  rw [Attributes.decimal, hbinds.text_eq, splitAmount_of_isAmount h]
  split
  · rename_i hnil
    exact absurd (Prod.mk.inj hnil).1 h.ne_nil
  · rename_i heq
    rw [← (Prod.mk.inj heq).1, hx]

end ChainRecord.Numeral

namespace ChainRecord.IbcChannel

open Reading

/-! ### Payloads -/

/-- The strings of a transfer. -/
structure TransferTexts where
  amount : String
  denom : String
  sender : String
  receiver : String
  memo : String

/-- The members of a JSON object say a transfer. There may be other members, and the order does not
matter. -/
structure SaysTransfer (members : Json.Members) (texts : TransferTexts) : Prop where
  amount : Json.Binds members "amount" (.string texts.amount)
  denom : Json.Binds members "denom" (.string texts.denom)
  sender : Json.Binds members "sender" (.string texts.sender)
  receiver : Json.Binds members "receiver" (.string texts.receiver)
  memo : Json.Binds members "memo" (.string texts.memo)

/-- The payload of a packet is a text of a transfer. -/
inductive Carries (packet : Packet) (texts : TransferTexts) : Prop
  /-- A text of a JSON object that says the transfer, in any of the ways to write one. -/
  | mk {members : Json.Members} {text : String} :
      packet.data = Wire.Textual.toBytes .string text → Json.TextForm (.object members) text →
      SaysTransfer members texts → Carries packet texts

/-- A transfer in a packet is what its strings say, with one trace of the channel taken off the
denomination if there is one. -/
structure IsReadBack (packet : Packet) (texts : TransferTexts) (amount : ℚ)
    (data : Record.TransferData) : Prop where
  amount : data.amount.value = amount
  denom : texts.denom = traceOf packet ++ data.denom ∨
    (texts.denom = data.denom ∧ ¬ (traceOf packet).toList <+: data.denom.toList)
  sender : data.sender = texts.sender
  receiver : data.receiver = texts.receiver
  memo : data.memo = texts.memo

/-- A transfer took effect with what its payload says, under the number of its packet. -/
structure SettlesWith (packet : Packet) (data : Record.TransferData) (transfer : Record.Transfer) :
    Prop where
  amount : transfer.amount = data.amount
  denom : transfer.denom = data.denom
  sender : transfer.sender = data.sender
  receiver : transfer.receiver = data.receiver
  memo : transfer.memo = data.memo
  sequence : transfer.sequence = packet.sequence

theorem Carries.exists_transferIn? {packet : Packet} {texts : TransferTexts} {q : ℚ}
    (h : Carries packet texts) (hamount : Numeral.IsAmount texts.amount.toList q) :
    ∃ data, transferIn? packet = some data ∧ IsReadBack packet texts q data := by
  obtain ⟨hdata, htext, hsays⟩ := h
  obtain ⟨x, hx, hvalue⟩ := hamount.exists_decimal hsays.amount
  refine ⟨⟨x, localDenom packet texts.denom, texts.sender, texts.receiver, texts.memo⟩, ?_, hvalue,
    (localDenom_eq_iff packet texts.denom _).1 rfl, rfl, rfl, rfl⟩
  rw [transferIn?, transferOf?, hdata, Json.membersOfBytes?_eq_some htext, Option.bind_eq_bind,
    Option.bind_some, hsays.amount.hasKey, hsays.denom.hasKey, hx, hsays.denom.text_eq,
    hsays.sender.text_eq, hsays.receiver.text_eq, hsays.memo.text_eq]
  rfl

/-- A transfer that takes effect does so with what its payload says. -/
theorem settlesWith_of_transferEntities {scope : Scope} {packet : Packet}
    {data : Record.TransferData} {flow : Flow} {transfer : Record.Transfer}
    (h : (transferEntities scope packet data flow).transfer = some transfer) :
    SettlesWith packet data transfer := by
  cases flow with
  | received | sent =>
    obtain rfl := Option.some.inj h
    exact ⟨rfl, rfl, rfl, rfl, rfl, rfl⟩
  | refunded => cases h

/-- **Transfers are read back.** A packet that is not addressed to interchain accounts carries a
text of a transfer, whose amount is digits with an optional point. Then every message about the
packet is recorded, with a transfer that is what the strings say: the amount exactly, the parties
and the memo as they are, and the denomination without its trace. If the transfer takes effect, it
does so with all of these, under the number of the packet. -/
theorem transfer_read_back (d : Decoder) (block : Block) (position : Nat) (status : Status)
    (kind : Kind) (m : kind.Body) (packet : Packet) (texts : TransferTexts) (q : ℚ)
    (hpacket : packetOf? kind m = some packet)
    (hport : packet.destinationPort ≠ d.settings.icaHostPort) (htexts : Carries packet texts)
    (hamount : Numeral.IsAmount texts.amount.toList q) :
    ∃ r data,
      Message.record d block (.known (.ibcChannel kind) m) position status = .ok r ∧
      r.packet = some (.transfer data) ∧ IsReadBack packet texts q data ∧
      ∀ transfer, r.entities.transfer = some transfer → SettlesWith packet data transfer := by
  obtain ⟨data, htransfer, hback⟩ := htexts.exists_transferIn? hamount
  obtain ⟨signer, flow, hread, -⟩ := read_eq_readPacket kind m
  set scope := outermost d block position status with hscope
  have hfound : read scope kind m =
      { addresses := scope.addresses ((.signer, signer) :: localParties d data)
        packet := some (.transfer data)
        entities := transferEntities scope packet data flow } := by
    have hport' : packet.destinationPort ≠ scope.settings.icaHostPort := hport
    rw [hread, hpacket, readPacket, if_neg hport', htransfer]
    rfl
  refine ⟨Message.stamp (.known (.ibcChannel kind) m) scope (read scope kind m), data, rfl, ?_,
    hback, fun transfer hsettled ↦ ?_⟩
  · show (read scope kind m).packet = _
    rw [hfound]
  · cases status with
    | failed => cases hsettled
    | success =>
      have hentities : (read scope kind m).entities.transfer = some transfer := hsettled
      rw [hfound] at hentities
      exact settlesWith_of_transferEntities hentities

/-- A transfer of a token that comes home. -/
def rocketTexts : TransferTexts where
  amount := "12.50"
  denom := "transfer/channel-2/utia"
  sender := "osmo1sender"
  receiver := "celestia1receiver"
  memo := "\"🚀\""

/-- The transfer in JSON, with its keys in another order and a key of another kind among them. -/
def rocketText : String :=
  "\x7b\"memo\":\"\\u0022\\uD83D\\ude80\\\"\",\"amount\":\"12.50\",\"note\":\"\"," ++
    "\"receiver\":\"celestia1receiver\",\"denom\":\"transfer\\/channel-2\\/utia\"," ++
    " \"sender\":\"osmo1sender\"\x7d"

/-- The members of the text. -/
def rocketMembers : Json.Members :=
  [("memo", .string "\"🚀\""), ("amount", .string "12.50"), ("note", .string ""),
    ("receiver", .string "celestia1receiver"), ("denom", .string "transfer/channel-2/utia"),
    ("sender", .string "osmo1sender")]

/-- A packet with the text. -/
def rocketPacket : Packet where
  sequence := 7
  sourcePort := "transfer"
  sourceChannel := "channel-2"
  destinationPort := "transfer"
  destinationChannel := "channel-0"
  data := Wire.Textual.toBytes .string rocketText
  timeoutHeight := none
  timeoutTimestamp := 0

theorem carries_rocketPacket : Carries rocketPacket rocketTexts := by
  have hstrings : (Json.ofText? rocketText).bind Json.stringsOf? =
      some [("memo", "\"🚀\""), ("amount", "12.50"), ("note", ""), ("receiver", "celestia1receiver"),
        ("denom", "transfer/channel-2/utia"), ("sender", "osmo1sender")] := by
    decide +kernel
  have htext : Json.TextForm (.object rocketMembers) rocketText :=
    Json.textForm_of_stringsOf? hstrings
  exact .mk rfl htext
    { amount := ⟨rocketMembers.take 1, rocketMembers.drop 2, rfl, by simp [rocketMembers]⟩
      denom := ⟨rocketMembers.take 4, rocketMembers.drop 5, rfl, by simp [rocketMembers]⟩
      sender := ⟨rocketMembers.take 5, rocketMembers.drop 6, rfl, by simp [rocketMembers]⟩
      receiver := ⟨rocketMembers.take 3, rocketMembers.drop 4, rfl, by simp [rocketMembers]⟩
      memo := ⟨[], rocketMembers.drop 1, rfl, by simp [rocketMembers]⟩ }

theorem isAmount_rocketTexts : Numeral.IsAmount rocketTexts.amount.toList (25 / 2) := by
  have hwhole : Numeral.IsDigits ['1', '2'] := Numeral.isDigits_eq_true_iff.1 rfl
  have hfraction : Numeral.IsDigits ['5', '0'] := Numeral.isDigits_eq_true_iff.1 rfl
  have hvalue : (Numeral.numberOf ['1', '2'] : ℚ) + Numeral.numberOf ['5', '0'] / 10 ^ 2 =
      25 / 2 := by
    have hnumbers : Numeral.numberOf ['1', '2'] = 12 ∧ Numeral.numberOf ['5', '0'] = 50 :=
      ⟨rfl, rfl⟩
    rw [hnumbers.1, hnumbers.2]
    norm_num
  exact hvalue ▸ .decimal hwhole hfraction

/-- The transfer of the rocket is read back when it is received. -/
theorem transfer_read_back_rocket :
    ∃ r data,
      Message.record {} ⟨100, ⟨1700000000, 0⟩⟩
        (.known (.ibcChannel .recvPacket) ⟨some rocketPacket, [], none, "relayer"⟩) 0 .success =
          .ok r ∧
      r.packet = some (.transfer data) ∧ IsReadBack rocketPacket rocketTexts (25 / 2) data ∧
      ∀ transfer, r.entities.transfer = some transfer → SettlesWith rocketPacket data transfer :=
  transfer_read_back {} ⟨100, ⟨1700000000, 0⟩⟩ 0 .success .recvPacket
    ⟨some rocketPacket, [], none, "relayer"⟩ rocketPacket rocketTexts (25 / 2) rfl (by decide)
    carries_rocketPacket isAmount_rocketTexts

end ChainRecord.IbcChannel
