import Mathlib.Data.List.Basic
import ChainRecord.Proofs.DecimalValue
import ChainRecord.Reading.Message

/-!
# Counters of channels

What a transfer adds to the counters of its channel is the native part of its amount, and native is
decided by the denomination in the payload after one trace was taken off, if there is one. The trace
is taken off whichever way the packet goes, so two denominations count in both directions: the
native one as it is (unless it begins with the trace itself) and the native one behind the trace
(`localDenom_eq_iff`).

What a chain gains and loses is different in the two directions. A token of this chain comes home
behind the trace that the other chain put in front of it, and goes out without one. The counters are
compared with this in `received_eq_homecoming_iff` and `sent_eq_outgoing_iff`, which say for which
denominations they are wrong.
-/

namespace ChainRecord.IbcChannel

open Reading

/-! ### Denominations -/

/-- What is left of a denomination is a given one exactly when that one is behind the trace, or
stands there without one. -/
theorem localDenom_eq_iff (packet : Packet) (denom base : String) :
    localDenom packet denom = base ↔
      denom = traceOf packet ++ base ∨
        (denom = base ∧ ¬ (traceOf packet).toList <+: base.toList) := by
  unfold localDenom
  cases h : (traceOf packet).toList.isPrefixOf? denom.toList with
  | some rest =>
    rw [List.isPrefixOf?_eq_some_iff_append_eq] at h
    have hdenom : denom = traceOf packet ++ String.ofList rest :=
      String.toList_inj.1 (by rw [String.toList_append, String.toList_ofList, h])
    constructor
    · rintro rfl
      exact Or.inl hdenom
    · rintro (hbase | ⟨rfl, hprefix⟩)
      · exact String.toList_inj.1
          (List.append_cancel_left (by
            rw [String.toList_ofList, h, hbase, String.toList_append]))
      · exact absurd ⟨rest, h⟩ hprefix
  | none =>
    have hprefix : ¬ (traceOf packet).toList <+: denom.toList := by
      rintro ⟨rest, hrest⟩
      rw [List.isPrefixOf?_eq_some_iff_append_eq.2 hrest] at h
      exact Option.some_ne_none _ h
    constructor
    · rintro rfl
      exact Or.inr ⟨rfl, hprefix⟩
    · rintro (rfl | ⟨rfl, -⟩)
      · exact absurd ⟨base.toList, String.toList_append.symm⟩ hprefix
      · rfl

/-- A denomination is longer behind a trace. -/
theorem traceOf_append_ne (packet : Packet) (base : String) : traceOf packet ++ base ≠ base := by
  intro h
  have hlength := congrArg String.length h
  simp [traceOf, String.length_append] at hlength

/-! ### What is counted -/

/-- The packet of a message together with the transfer in it, if there is one that is not addressed
to interchain accounts. The denomination is the one in the payload. -/
def tokenPayload? (settings : Settings) (packet? : Option Packet) :
    Option (Packet × Record.TransferData) :=
  match packet? with
  | none => none
  | some packet =>
    if packet.destinationPort = settings.icaHostPort then none
    else (transferOf? packet.data).map fun data ↦ (packet, data)

/-- What is counted of a transfer, in either direction. -/
def counted (settings : Settings) (packet : Packet) (data : Record.TransferData) : Decimal :=
  nativePart settings { data with denom := localDenom packet data.denom }

/-- What a transfer that came in brings home. Behind the trace of the channel the sending chain
names a token it got over the channel; without one it names a token of its own, which is not that of
this chain even if it has the same name. -/
def homecoming (settings : Settings) (packet : Packet) (data : Record.TransferData) : Decimal :=
  if data.denom = traceOf packet ++ settings.nativeDenom then data.amount else Decimal.zero

/-- What a transfer that went out takes away. Behind the trace of the channel this chain names a
token it got over the channel, which is that of the other chain. -/
def outgoing (settings : Settings) (data : Record.TransferData) : Decimal :=
  if data.denom = settings.nativeDenom then data.amount else Decimal.zero

theorem counted_eq (settings : Settings) (packet : Packet) (data : Record.TransferData) :
    counted settings packet data =
      if data.denom = traceOf packet ++ settings.nativeDenom ∨
          (data.denom = settings.nativeDenom ∧
            ¬ (traceOf packet).toList <+: settings.nativeDenom.toList) then data.amount
      else Decimal.zero := by
  unfold counted nativePart
  simp only [localDenom_eq_iff]

/-- What is counted is what comes home, unless the native denomination stands without a trace. -/
theorem counted_eq_homecoming_iff (settings : Settings) (packet : Packet)
    (data : Record.TransferData) :
    (counted settings packet data).value = (homecoming settings packet data).value ↔
      data.amount.value = 0 ∨
        ¬ (data.denom = settings.nativeDenom ∧
          ¬ (traceOf packet).toList <+: settings.nativeDenom.toList) := by
  have hne := traceOf_append_ne packet settings.nativeDenom
  rw [counted_eq, homecoming]
  by_cases htraced : data.denom = traceOf packet ++ settings.nativeDenom
  · rw [if_pos (Or.inl htraced), if_pos htraced]
    exact iff_of_true rfl (Or.inr fun h ↦ hne (htraced.symm.trans h.1))
  · rw [if_neg htraced]
    by_cases hbare : data.denom = settings.nativeDenom ∧
        ¬ (traceOf packet).toList <+: settings.nativeDenom.toList
    · rw [if_pos (Or.inr hbare), Decimal.value_zero, eq_false (not_not_intro hbare), or_false]
    · rw [if_neg (not_or_intro htraced hbare)]
      exact iff_of_true rfl (Or.inr hbare)

/-- What is counted is what goes out, unless the native denomination stands behind the trace or
begins with it. -/
theorem counted_eq_outgoing_iff (settings : Settings) (packet : Packet)
    (data : Record.TransferData) :
    (counted settings packet data).value = (outgoing settings data).value ↔
      data.amount.value = 0 ∨
        ¬ (data.denom = traceOf packet ++ settings.nativeDenom ∨
          (data.denom = settings.nativeDenom ∧
            (traceOf packet).toList <+: settings.nativeDenom.toList)) := by
  have hne := traceOf_append_ne packet settings.nativeDenom
  rw [counted_eq, outgoing]
  by_cases hnative : data.denom = settings.nativeDenom
  · have htraced : data.denom ≠ traceOf packet ++ settings.nativeDenom :=
      fun h ↦ hne (h.symm.trans hnative)
    rw [if_pos hnative]
    by_cases hprefix : (traceOf packet).toList <+: settings.nativeDenom.toList
    · simp [hnative, hne.symm, hprefix, eq_comm]
    · simp [hnative, hne.symm, hprefix]
  · by_cases htraced : data.denom = traceOf packet ++ settings.nativeDenom
    · simp [htraced, hne]
    · simp [htraced, hnative]

/-! ### Records of packets -/

/-- What a packet brings about is what the transfer in it does. -/
theorem readPacket_entities (scope : Scope) (signer : String) (flow : Flow)
    (packet? : Option Packet) :
    (readPacket scope signer flow packet?).entities =
      match tokenPayload? scope.settings packet? with
      | none => .empty
      | some (packet, data) =>
        transferEntities scope packet { data with denom := localDenom packet data.denom } flow := by
  cases packet? with
  | none => rfl
  | some packet =>
    rw [readPacket, tokenPayload?, transferIn?]
    by_cases hport : packet.destinationPort = scope.settings.icaHostPort
    · rw [if_pos hport, if_pos hport]
    · rw [if_neg hport, if_neg hport]
      cases transferOf? packet.data <;> rfl

/-- A packet leaves an entry for its channel only through the transfer in it. -/
theorem readPacket_channel (scope : Scope) (signer : String) (flow : Flow)
    (packet? : Option Packet) :
    (readPacket scope signer flow packet?).entities.channel =
      (tokenPayload? scope.settings packet?).bind fun (packet, data) ↦
        (transferEntities scope packet { data with denom := localDenom packet data.denom }
          flow).channel := by
  rw [readPacket_entities]
  cases tokenPayload? scope.settings packet? <;> rfl

/-- A message about packets is never refused, and of an executed transaction what it brings about
is kept. -/
theorem record_entities (d : Decoder) (block : Block) (position : Nat) (kind : Kind)
    (m : kind.Body) :
    ∃ r, Message.record d block (.known (.ibcChannel kind) m) position .success = .ok r ∧
      r.entities = (read (outermost d block position .success) kind m).entities :=
  ⟨_, rfl, rfl⟩

/-- A packet that transfers five of a denomination. -/
def packetOfFive (denom : String) : Packet where
  sequence := 1
  sourcePort := "transfer"
  sourceChannel := "channel-2"
  destinationPort := "transfer"
  destinationChannel := "channel-0"
  data :=
    Wire.Textual.toBytes .string ("\x7b\"amount\":\"5\",\"denom\":\"" ++ denom ++ "\"\x7d")
  timeoutHeight := none
  timeoutTimestamp := 0

/-- **What comes in.** A received packet leaves an entry for its channel exactly if it carries a
transfer. It counts the amount of the native denomination behind the trace of the channel, and also
that of the native denomination without a trace; only the former comes home. -/
theorem received_eq_homecoming_iff (d : Decoder) (block : Block) (position : Nat)
    (m : MsgRecvPacket) :
    ∃ r, Message.record d block (.known (.ibcChannel .recvPacket) m) position .success = .ok r ∧
      match tokenPayload? d.settings m.packet with
      | none => r.entities.channel = none
      | some (packet, data) =>
        ∃ channel, r.entities.channel = some channel ∧
          channel.received =
            (if data.denom = traceOf packet ++ d.settings.nativeDenom ∨
                (data.denom = d.settings.nativeDenom ∧
                  ¬ (traceOf packet).toList <+: d.settings.nativeDenom.toList) then data.amount
            else Decimal.zero) ∧
          (channel.received.value = (homecoming d.settings packet data).value ↔
            data.amount.value = 0 ∨
              ¬ (data.denom = d.settings.nativeDenom ∧
                ¬ (traceOf packet).toList <+: d.settings.nativeDenom.toList)) := by
  obtain ⟨r, hr, hentities⟩ := record_entities d block position .recvPacket m
  refine ⟨r, hr, ?_⟩
  rw [hentities, read, readPacket_channel, outermost_settings]
  cases tokenPayload? d.settings m.packet with
  | none => rfl
  | some payload =>
    obtain ⟨packet, data⟩ := payload
    exact ⟨_, rfl, counted_eq d.settings packet data,
      counted_eq_homecoming_iff d.settings packet data⟩

/-- Five of a token of the other chain that is called like the native one are counted as if they
came home. -/
theorem received_foreign_namesake :
    ((Message.record {} ⟨100, ⟨1700000000, 0⟩⟩
        (.known (.ibcChannel .recvPacket) ⟨some (packetOfFive "utia"), [], none, ""⟩) 0
        .success).toOption.bind (·.entities.channel)).map (·.received) = some ⟨5, 0⟩ ∧
      (tokenPayload? {} (some (packetOfFive "utia"))).map
        (fun (packet, data) ↦ homecoming {} packet data) = some Decimal.zero := by
  decide +kernel

/-- **What goes out.** The acknowledgement of a packet leaves an entry for its channel exactly if it
is no refusal and the packet carries a transfer. It counts the amount of the native denomination,
unless that begins with the trace of the channel, and also that of the native denomination behind
the trace, which is a token of the other chain. -/
theorem sent_eq_outgoing_iff (d : Decoder) (block : Block) (position : Nat)
    (m : MsgAcknowledgement) :
    ∃ r, Message.record d block (.known (.ibcChannel .acknowledgement) m) position .success =
        .ok r ∧
      match isRefusal m.acknowledgement, tokenPayload? d.settings m.packet with
      | true, _ => r.entities.channel = none
      | false, none => r.entities.channel = none
      | false, some (packet, data) =>
        ∃ channel, r.entities.channel = some channel ∧
          channel.sent =
            (if data.denom = traceOf packet ++ d.settings.nativeDenom ∨
                (data.denom = d.settings.nativeDenom ∧
                  ¬ (traceOf packet).toList <+: d.settings.nativeDenom.toList) then data.amount
            else Decimal.zero) ∧
          (channel.sent.value = (outgoing d.settings data).value ↔
            data.amount.value = 0 ∨
              ¬ (data.denom = traceOf packet ++ d.settings.nativeDenom ∨
                (data.denom = d.settings.nativeDenom ∧
                  (traceOf packet).toList <+: d.settings.nativeDenom.toList))) := by
  obtain ⟨r, hr, hentities⟩ := record_entities d block position .acknowledgement m
  refine ⟨r, hr, ?_⟩
  rw [hentities, read, readPacket_channel, outermost_settings]
  cases isRefusal m.acknowledgement with
  | true => cases tokenPayload? d.settings m.packet <;> rfl
  | false =>
    cases tokenPayload? d.settings m.packet with
    | none => rfl
    | some payload =>
      obtain ⟨packet, data⟩ := payload
      exact ⟨_, rfl, counted_eq d.settings packet data,
        counted_eq_outgoing_iff d.settings packet data⟩

/-- Five of a token that goes back to the other chain are counted as if they were native. -/
theorem sent_foreign_voucher :
    ((Message.record {} ⟨100, ⟨1700000000, 0⟩⟩
        (.known (.ibcChannel .acknowledgement)
          ⟨some (packetOfFive "transfer/channel-2/utia"), [], [], none, ""⟩) 0
        .success).toOption.bind (·.entities.channel)).map (·.sent) = some ⟨5, 0⟩ ∧
      (tokenPayload? {} (some (packetOfFive "transfer/channel-2/utia"))).map
        (fun (_, data) ↦ outgoing {} data) = some Decimal.zero := by
  decide +kernel

end ChainRecord.IbcChannel
