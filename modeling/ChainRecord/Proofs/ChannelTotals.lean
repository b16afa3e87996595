import ChainRecord.Proofs.ChannelCounters
import ChainRecord.Proofs.NumeralSign
import ChainRecord.Proofs.SideData
import Mathlib.Data.List.Basic
import Mathlib.Data.Prod.Basic
import Mathlib.Order.Basic

/-!
# Totals of channels

What packets add to the counters of a channel's end is added up. It is the amount in the payload,
which is a text that the other chain has chosen, and a minus sign in front of it is read. So
counters can go down, and this says when they do.

Of one message the amounts that are recorded are zero or that of the payload
(`Settles.exists_record`), and its sign is in the text (`transferOf?_amount_nonneg_iff`). Of a run
of messages the totals never fall exactly if no message adds a negative amount: what is added does
not depend on the totals, so a negative amount makes those at its own end of the channel fall,
wherever they stand (`Totals.isChain_scanl_add_iff`, `Occurrence.gain_nonneg_iff`).
-/

namespace ChainRecord.IbcChannel

open Reading

/-! ### Amounts in payloads -/

/-- The amount in a payload is written as a negative number. A unit behind it does not count. -/
def HasNegativeAmount (payload : Bytes) : Prop :=
  ∃ members, Json.membersOfBytes? payload = some members ∧
    Numeral.IsNegative (CoinAmount.splitAmount (Attributes.text members "amount").toList).1

theorem value_nonneg_iff_of_decimal {members : Json.Members} {key : String} {x : Decimal}
    (h : Attributes.decimal members key = .ok x) :
    0 ≤ x.value ↔
      ¬ Numeral.IsNegative (CoinAmount.splitAmount (Attributes.text members key).toList).1 := by
  rw [Attributes.decimal] at h
  rcases hsplit : CoinAmount.splitAmount (Attributes.text members key).toList with ⟨amount, unit⟩
  rw [hsplit] at h
  cases amount with
  | nil =>
    -- no amount is zero
    obtain rfl := Except.ok.inj h
    exact iff_of_true (by rw [Decimal.value_zero]) fun ⟨_, hnil, _⟩ ↦ nomatch hnil
  | cons c cs =>
    dsimp only at h ⊢
    cases hread : Numeral.decimalOfChars? (c :: cs) with
    | none => rw [hread] at h; exact nomatch h
    | some y =>
      rw [hread] at h
      obtain rfl := Except.ok.inj h
      exact Numeral.value_nonneg_iff_of_decimalOfChars? hread

/-- The sign of the amount of a transfer is in the text of the payload. -/
theorem transferOf?_amount_nonneg_iff {payload : Bytes} {data : Record.TransferData}
    (h : transferOf? payload = some data) :
    0 ≤ data.amount.value ↔ ¬ HasNegativeAmount payload := by
  obtain ⟨members, hmembers, h⟩ := Option.bind_eq_some_iff.1 h
  have hnegative : HasNegativeAmount payload ↔ Numeral.IsNegative
      (CoinAmount.splitAmount (Attributes.text members "amount").toList).1 := by
    rw [HasNegativeAmount, hmembers]
    exact ⟨fun ⟨_, hsome, h⟩ ↦ Option.some.inj hsome ▸ h, fun h ↦ ⟨members, rfl, h⟩⟩
  split at h
  · obtain ⟨amount, hamount, h⟩ := Option.bind_eq_some_iff.1 h
    obtain rfl := Option.some.inj h
    rw [value_nonneg_iff_of_decimal (toOption_eq_some_iff.1 hamount), hnegative]
  · exact nomatch h

/-! ### Transfers that take effect -/

/-- By a message the transfer in a packet takes effect. -/
inductive Settles (settings : Settings) : Message → Packet → Record.TransferData → Prop
  /-- It has come in. -/
  | received {m : MsgRecvPacket} {packet : Packet} {data : Record.TransferData} :
      tokenPayload? settings m.packet = some (packet, data) →
      Settles settings (.known (.ibcChannel .recvPacket) m) packet data
  /-- It has gone out, and the other chain has not refused it. -/
  | sent {m : MsgAcknowledgement} {packet : Packet} {data : Record.TransferData} :
      isRefusal m.acknowledgement = false →
      tokenPayload? settings m.packet = some (packet, data) →
      Settles settings (.known (.ibcChannel .acknowledgement) m) packet data

/-- The amounts in the records of a transfer that has taken effect. One of the counters is zero. -/
structure RecordsAmounts (settings : Settings) (packet : Packet) (data : Record.TransferData)
    (channel : Record.Channel) (transfer : Record.Transfer) : Prop where
  amount : transfer.amount = data.amount
  counters :
    (channel.received = counted settings packet data ∧ channel.sent = Decimal.zero) ∨
      (channel.received = Decimal.zero ∧ channel.sent = counted settings packet data)

section RecordsAmounts

variable {settings : Settings} {packet : Packet} {data : Record.TransferData}
  {channel : Record.Channel} {transfer : Record.Transfer}

theorem counted_nonneg_iff :
    0 ≤ (counted settings packet data).value ↔
      (localDenom packet data.denom = settings.nativeDenom → 0 ≤ data.amount.value) := by
  unfold counted nativePart
  by_cases hnative : localDenom packet data.denom = settings.nativeDenom
  · simp [hnative]
  · simp [hnative]

theorem RecordsAmounts.counters_nonneg_iff
    (h : RecordsAmounts settings packet data channel transfer) :
    0 ≤ channel.received.value ∧ 0 ≤ channel.sent.value ↔
      0 ≤ (counted settings packet data).value := by
  rcases h.counters with ⟨hreceived, hsent⟩ | ⟨hreceived, hsent⟩
  · rw [hreceived, hsent, Decimal.value_zero, and_iff_left le_rfl]
  · rw [hreceived, hsent, Decimal.value_zero, and_iff_right le_rfl]

/-- The counters are not negative either if the amount of the transfer is not. -/
theorem RecordsAmounts.nonneg_iff (h : RecordsAmounts settings packet data channel transfer) :
    0 ≤ channel.received.value ∧ 0 ≤ channel.sent.value ∧ 0 ≤ transfer.amount.value ↔
      0 ≤ data.amount.value := by
  rw [← and_assoc, h.counters_nonneg_iff, counted_nonneg_iff, h.amount]
  exact ⟨fun hboth ↦ hboth.2, fun hdata ↦ ⟨fun _ ↦ hdata, hdata⟩⟩

end RecordsAmounts

theorem transferOf?_of_tokenPayload? {settings : Settings} {packet? : Option Packet}
    {packet : Packet} {data : Record.TransferData}
    (h : tokenPayload? settings packet? = some (packet, data)) :
    transferOf? packet.data = some data := by
  cases packet? with
  | none => cases h
  | some packet' =>
    rw [tokenPayload?] at h
    split at h
    · cases h
    · obtain ⟨data', hdata, heq⟩ := Option.map_eq_some_iff.1 h
      obtain ⟨rfl, rfl⟩ := Prod.mk.inj heq
      exact hdata

theorem Settles.amount_nonneg_iff {settings : Settings} {message : Message} {packet : Packet}
    {data : Record.TransferData} (h : Settles settings message packet data) :
    0 ≤ data.amount.value ↔ ¬ HasNegativeAmount packet.data := by
  cases h with
  | received hpayload => exact transferOf?_amount_nonneg_iff (transferOf?_of_tokenPayload? hpayload)
  | sent _ hpayload => exact transferOf?_amount_nonneg_iff (transferOf?_of_tokenPayload? hpayload)

/-- Where a transfer takes effect there is a record, with the amounts of the transfer. -/
theorem Settles.exists_record {d : Decoder} {message : Message} {packet : Packet}
    {data : Record.TransferData} (h : Settles d.settings message packet data) (block : Block)
    (position : Nat) :
    ∃ r channel transfer, message.record d block position .success = .ok r ∧
      r.entities.channel = some channel ∧ r.entities.transfer = some transfer ∧
      RecordsAmounts d.settings packet data channel transfer := by
  cases h with
  | @received m packet data hpayload =>
    obtain ⟨r, hr, hentities⟩ := record_entities d block position .recvPacket m
    rw [read, readPacket_entities, outermost_settings, hpayload] at hentities
    exact ⟨r, _, _, hr, congrArg (·.channel) hentities, congrArg (·.transfer) hentities, rfl,
      Or.inl ⟨rfl, rfl⟩⟩
  | @sent m packet data hrefusal hpayload =>
    obtain ⟨r, hr, hentities⟩ := record_entities d block position .acknowledgement m
    rw [read, readPacket_entities, outermost_settings, hpayload, hrefusal] at hentities
    exact ⟨r, _, _, hr, congrArg (·.channel) hentities, congrArg (·.transfer) hentities, rfl,
      Or.inr ⟨rfl, rfl⟩⟩

/-- Messages that are not about channels bring about no entry for one. -/
theorem channel_eq_none {scope : Scope} {kind : Message.Kind} {m : kind.Body}
    (hkind : ∀ kind' : Kind, kind ≠ .ibcChannel kind') {found : Findings}
    (h : (Message.known kind m).read scope = .ok found) : found.entities.channel = none := by
  by_contra hchannel
  rcases ((Message.known kind m).read_belongTo found h).settles hchannel with hpacket | hpacket
  · exact hkind _ (Option.some.inj hpacket)
  · exact hkind _ (Option.some.inj hpacket)

/-- What a packet brings about for a channel is brought about by a transfer that does not come
back. -/
theorem exists_tokenPayload?_of_channel {scope : Scope} {signer : String} {flow : Flow}
    {packet? : Option Packet} (h : (readPacket scope signer flow packet?).entities.channel ≠ none) :
    flow ≠ .refunded ∧
      ∃ packet data, tokenPayload? scope.settings packet? = some (packet, data) := by
  rw [readPacket_entities] at h
  cases hpayload : tokenPayload? scope.settings packet? with
  | none =>
    rw [hpayload] at h
    exact absurd rfl h
  | some payload =>
    rw [hpayload] at h
    refine ⟨?_, _, _, rfl⟩
    rintro rfl
    exact h rfl

/-- What is found of a channel is found in a transfer that takes effect. -/
theorem exists_settles_of_read {scope : Scope} {message : Message} {found : Findings}
    (h : message.read scope = .ok found) (hchannel : found.entities.channel ≠ none) :
    ∃ packet data, Settles scope.settings message packet data := by
  cases message with
  | unknown any => exact absurd (Except.ok.inj h ▸ rfl) hchannel
  | known kind m =>
    by_cases hkind : ∃ kind' : Kind, kind = .ibcChannel kind'
    · obtain ⟨kind', rfl⟩ := hkind
      obtain rfl := Except.ok.inj h
      cases kind' with
      | recvPacket =>
        obtain ⟨-, packet, data, hpayload⟩ := exists_tokenPayload?_of_channel hchannel
        exact ⟨packet, data, .received hpayload⟩
      | acknowledgement =>
        obtain ⟨hflow, packet, data, hpayload⟩ := exists_tokenPayload?_of_channel hchannel
        refine ⟨packet, data, .sent ?_ hpayload⟩
        exact Bool.eq_false_iff.2 fun hrefusal ↦ hflow (if_pos hrefusal)
      | timeout | timeoutOnClose => exact absurd rfl (exists_tokenPayload?_of_channel hchannel).1
      | openInit | openTry | openAck | openConfirm | closeInit | closeConfirm =>
        exact absurd rfl hchannel
    · exact absurd (channel_eq_none (fun kind' hkind' ↦ hkind ⟨kind', hkind'⟩) h) hchannel

/-- Only a transfer that takes effect leaves an entry for a channel. -/
theorem exists_settles {d : Decoder} {block : Block} {message : Message} {position : Nat}
    {status : Status} {r : Record.Message}
    (h : message.record d block position status = .ok r)
    (hchannel : r.entities.channel ≠ none) :
    status = .success ∧ ∃ packet data, Settles d.settings message packet data := by
  obtain ⟨found, hread, rfl⟩ := Message.recordIn_eq_ok_iff.1 h
  cases status with
  | failed => exact absurd rfl hchannel
  | success => exact ⟨rfl, exists_settles_of_read hread hchannel⟩

/-- The entry for a channel and the record of the transfer beside it have the amounts of one
transfer. -/
theorem exists_recordsAmounts {d : Decoder} {block : Block} {message : Message} {position : Nat}
    {status : Status} {r : Record.Message} {channel : Record.Channel}
    (h : message.record d block position status = .ok r)
    (hchannel : r.entities.channel = some channel) :
    status = .success ∧ ∃ packet data transfer, Settles d.settings message packet data ∧
      r.entities.transfer = some transfer ∧
      RecordsAmounts d.settings packet data channel transfer := by
  have hne : r.entities.channel ≠ none := by
    rw [hchannel]
    exact Option.some_ne_none channel
  obtain ⟨rfl, packet, data, hsettles⟩ := exists_settles h hne
  obtain ⟨r', channel', transfer, hr', hchannel', htransfer, hamounts⟩ :=
    hsettles.exists_record block position
  obtain rfl := Except.ok.inj (h.symm.trans hr')
  obtain rfl := Option.some.inj (hchannel.symm.trans hchannel')
  exact ⟨rfl, packet, data, transfer, hsettles, htransfer, hamounts⟩

/-! ### Totals -/

/-- What has been added up at an end of a channel. -/
structure Totals where
  received : Decimal
  sent : Decimal
  deriving DecidableEq

namespace Totals

instance : Zero Totals := ⟨⟨Decimal.zero, Decimal.zero⟩⟩

instance : Add Totals := ⟨fun t g ↦ ⟨t.received + g.received, t.sent + g.sent⟩⟩

/-- Totals are compared by value, and both of them. -/
instance : Preorder Totals := Preorder.lift fun t ↦ (t.received.value, t.sent.value)

theorem le_iff {t t' : Totals} :
    t ≤ t' ↔ t.received.value ≤ t'.received.value ∧ t.sent.value ≤ t'.sent.value :=
  Iff.rfl

theorem nonneg_iff {t : Totals} : 0 ≤ t ↔ 0 ≤ t.received.value ∧ 0 ≤ t.sent.value := by
  rw [le_iff]
  show Decimal.zero.value ≤ _ ∧ Decimal.zero.value ≤ _ ↔ _
  rw [Decimal.value_zero]

/-- A step goes down if what it adds is negative, wherever it starts. -/
theorem le_add_iff {t g : Totals} : t ≤ t + g ↔ 0 ≤ g := by
  have hreceived : (t + g).received.value = t.received.value + g.received.value :=
    Decimal.value_add _ _
  have hsent : (t + g).sent.value = t.sent.value + g.sent.value := Decimal.value_add _ _
  rw [nonneg_iff, le_iff, hreceived, hsent, le_add_iff_nonneg_right, le_add_iff_nonneg_right]

/-- A run goes down if a step does. -/
theorem isChain_scanl_add_iff {gains : List Totals} {t : Totals} :
    (gains.scanl (· + ·) t).IsChain (· ≤ ·) ↔ ∀ g ∈ gains, 0 ≤ g := by
  induction gains generalizing t with
  | nil => simp
  | cons g gains ih =>
    have hhead : ∃ rest, gains.scanl (· + ·) (t + g) = (t + g) :: rest := by
      cases gains with
      | nil => exact ⟨_, rfl⟩
      | cons g' gains => exact ⟨_, List.scanl_cons⟩
    obtain ⟨rest, hrest⟩ := hhead
    rw [List.scanl_cons, hrest, List.isChain_cons_cons, ← hrest, ih, le_add_iff,
      List.forall_mem_cons]

end Totals

/-- A message at its place. -/
structure Occurrence where
  block : Block
  message : Message
  position : Nat
  status : Status

namespace Occurrence

/-- The entry for a channel that a message leaves. A message that is refused leaves none. -/
def channel? (d : Decoder) (o : Occurrence) : Option Record.Channel :=
  (o.message.record d o.block o.position o.status).toOption.bind (·.entities.channel)

/-- What a message adds at an end of a channel. -/
def gain (d : Decoder) (here : ChannelEnd) (o : Occurrence) : Totals :=
  match o.channel? d with
  | none => 0
  | some channel =>
    if channel.id = here.channelId ∧ channel.portId = here.portId then
      ⟨channel.received, channel.sent⟩
    else 0

/-- A message adds a negative amount: by it a transfer takes effect that is taken for one of the
native denomination, with a negative amount. -/
def CountsDown (settings : Settings) (o : Occurrence) : Prop :=
  o.status = .success ∧ ∃ packet data, Settles settings o.message packet data ∧
    localDenom packet data.denom = settings.nativeDenom ∧ HasNegativeAmount packet.data

theorem channel?_eq_some_iff {d : Decoder} {o : Occurrence} {channel : Record.Channel} :
    o.channel? d = some channel ↔
      ∃ r, o.message.record d o.block o.position o.status = .ok r ∧
        r.entities.channel = some channel := by
  simp only [channel?, Option.bind_eq_some_iff, toOption_eq_some_iff]

/-- The end of the channel where a message adds a negative amount is its own. -/
theorem gain_nonneg_iff {d : Decoder} {o : Occurrence} :
    (∀ here, 0 ≤ o.gain d here) ↔ ¬ o.CountsDown d.settings := by
  constructor
  · rintro hgain ⟨hstatus, packet, data, hsettles, hnative, hnegative⟩
    obtain ⟨r, channel, transfer, hr, hchannel, -, hamounts⟩ :=
      hsettles.exists_record o.block o.position
    have hentry : o.channel? d = some channel :=
      channel?_eq_some_iff.2 ⟨r, hstatus ▸ hr, hchannel⟩
    have hown : o.gain d ⟨channel.id, channel.portId⟩ = ⟨channel.received, channel.sent⟩ := by
      rw [gain, hentry]
      exact if_pos ⟨rfl, rfl⟩
    have hcounted := Totals.nonneg_iff.1 (hown ▸ hgain ⟨channel.id, channel.portId⟩)
    rw [hamounts.counters_nonneg_iff, counted_nonneg_iff] at hcounted
    exact hsettles.amount_nonneg_iff.1 (hcounted hnative) hnegative
  · intro hdown here
    rw [gain]
    cases hentry : o.channel? d with
    | none => exact le_rfl
    | some channel =>
      obtain ⟨r, hr, hchannel⟩ := channel?_eq_some_iff.1 hentry
      obtain ⟨hstatus, packet, data, transfer, hsettles, -, hamounts⟩ :=
        exists_recordsAmounts hr hchannel
      have hcounted : 0 ≤ (counted d.settings packet data).value :=
        counted_nonneg_iff.2 fun hnative ↦ hsettles.amount_nonneg_iff.2 fun hnegative ↦
          hdown ⟨hstatus, packet, data, hsettles, hnative, hnegative⟩
      dsimp only
      split
      · exact Totals.nonneg_iff.2 (hamounts.counters_nonneg_iff.2 hcounted)
      · exact le_rfl

end Occurrence

/-- The totals at an end of a channel before a run of messages and after each of them. -/
def totals (d : Decoder) (here : ChannelEnd) (run : List Occurrence) : List Totals :=
  (run.map (·.gain d here)).scanl (· + ·) 0

/-- **When counters go down.** Where a message leaves an entry for a channel, a transfer takes
effect by it. Neither a counter nor the amount of the transfer is negative exactly if the amount in
the payload is not written as a negative one. And the totals of a run of messages never fall, at no
end of a channel, exactly if no message adds a negative amount in the native denomination. -/
theorem totals_never_fall_iff (d : Decoder) :
    (∀ (block : Block) (message : Message) (position : Nat) (status : Status)
        (r : Record.Message) (channel : Record.Channel),
      message.record d block position status = .ok r →
      r.entities.channel = some channel →
      ∃ packet data transfer, Settles d.settings message packet data ∧
        r.entities.transfer = some transfer ∧
        (0 ≤ channel.received.value ∧ 0 ≤ channel.sent.value ∧ 0 ≤ transfer.amount.value ↔
          ¬ HasNegativeAmount packet.data)) ∧
    ∀ run : List Occurrence,
      (∀ here, (totals d here run).Pairwise (· ≤ ·)) ↔
        ∀ o ∈ run, ¬ o.CountsDown d.settings := by
  refine ⟨fun block message position status r channel hr hchannel ↦ ?_, fun run ↦ ?_⟩
  · obtain ⟨-, packet, data, transfer, hsettles, htransfer, hamounts⟩ :=
      exists_recordsAmounts hr hchannel
    exact ⟨packet, data, transfer, hsettles, htransfer,
      hamounts.nonneg_iff.trans hsettles.amount_nonneg_iff⟩
  · have hrun (here : ChannelEnd) : (totals d here run).Pairwise (· ≤ ·) ↔
        ∀ o ∈ run, 0 ≤ o.gain d here := by
      rw [totals, ← List.isChain_iff_pairwise, Totals.isChain_scanl_add_iff, List.forall_mem_map]
    calc (∀ here, (totals d here run).Pairwise (· ≤ ·))
        ↔ ∀ o ∈ run, ∀ here, 0 ≤ o.gain d here := by
          simp only [hrun]
          exact ⟨fun h o ho here ↦ h here o ho, fun h here o ho ↦ h o ho here⟩
      _ ↔ ∀ o ∈ run, ¬ o.CountsDown d.settings :=
          forall₂_congr fun o _ ↦ Occurrence.gain_nonneg_iff

/-- A packet that brings home an amount of the native denomination. -/
def homecomingOf (amount : String) : Occurrence where
  block := ⟨100, ⟨1700000000, 0⟩⟩
  message := .known (.ibcChannel .recvPacket)
    ⟨some { packetOfFive "" with
      data := Wire.Textual.toBytes .string
        ("\x7b\"amount\":\"" ++ amount ++ "\",\"denom\":\"transfer/channel-2/utia\"\x7d") },
      [], none, ""⟩
  position := 0
  status := .success

/-- Five of the native denomination come home, and leave an entry. -/
theorem totals_never_fall_iff_five :
    ∃ r channel, Message.record {} ⟨100, ⟨1700000000, 0⟩⟩ (homecomingOf "5").message 0 .success =
        .ok r ∧
      r.entities.channel = some channel ∧
      ∃ packet data transfer, Settles {} (homecomingOf "5").message packet data ∧
        r.entities.transfer = some transfer ∧
        (0 ≤ channel.received.value ∧ 0 ≤ channel.sent.value ∧ 0 ≤ transfer.amount.value ↔
          ¬ HasNegativeAmount packet.data) := by
  have hentry : ((homecomingOf "5").channel? {}).isSome = true := by decide +kernel
  obtain ⟨channel, hchannel⟩ := Option.isSome_iff_exists.1 hentry
  obtain ⟨r, hr, hchannel⟩ := Occurrence.channel?_eq_some_iff.1 hchannel
  exact ⟨r, channel, hr, hchannel,
    (totals_never_fall_iff {}).1 _ (homecomingOf "5").message 0 .success r channel hr hchannel⟩

/-- Minus five of the native denomination come home. They are counted, and the total falls below
zero. -/
theorem received_minus_five :
    (∃ r channel transfer,
      Message.record {} ⟨100, ⟨1700000000, 0⟩⟩ (homecomingOf "-5").message 0 .success = .ok r ∧
      r.entities.channel = some channel ∧ r.entities.transfer = some transfer ∧
      ¬ 0 ≤ channel.received.value ∧ ¬ 0 ≤ transfer.amount.value) ∧
    ¬ (totals {} ⟨"channel-0", "transfer"⟩ [homecomingOf "-5"]).Pairwise (· ≤ ·) := by
  have hnegative : ¬ 0 ≤ (⟨-5, 0⟩ : Decimal).value := by
    rw [Decimal.value_nonneg_iff]
    decide
  have hamounts : (Message.record {} ⟨100, ⟨1700000000, 0⟩⟩ (homecomingOf "-5").message 0
      .success).toOption.map (fun r ↦
        (r.entities.channel.map (·.received), r.entities.transfer.map (·.amount))) =
      some (some ⟨-5, 0⟩, some ⟨-5, 0⟩) := by
    decide +kernel
  have htotals : totals {} ⟨"channel-0", "transfer"⟩ [homecomingOf "-5"] =
      [0, ⟨⟨-5, 0⟩, Decimal.zero⟩] := by
    decide +kernel
  refine ⟨?_, fun hpairwise ↦ ?_⟩
  · obtain ⟨r, hr, hpair⟩ := Option.map_eq_some_iff.1 hamounts
    obtain ⟨hreceived, htransfer⟩ := Prod.mk.inj hpair
    obtain ⟨channel, hchannel, hfive⟩ := Option.map_eq_some_iff.1 hreceived
    obtain ⟨transfer, htransfer, hfive'⟩ := Option.map_eq_some_iff.1 htransfer
    refine ⟨r, channel, transfer, toOption_eq_some_iff.1 hr, hchannel, htransfer, ?_, ?_⟩
    · rwa [hfive]
    · rwa [hfive']
  · rw [htotals] at hpairwise
    have hle : (0 : Totals) ≤ ⟨⟨-5, 0⟩, Decimal.zero⟩ :=
      List.rel_of_pairwise_cons hpairwise (List.mem_singleton_self _)
    exact hnegative (Totals.nonneg_iff.1 hle).1

end ChainRecord.IbcChannel
