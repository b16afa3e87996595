import ChainRecord.Proofs.ChannelCounters
import ChainRecord.Proofs.Json.Exactness

/-!
# Which way a packet goes

Four messages tell what became of a packet: it was received, it was acknowledged, or it was not
delivered in time, which is told in two ways. An acknowledgement counts as a refusal if it is a JSON
object with an error, and this is decided by its text alone (`isRefusal_iff`).

All four are read by one function, and what it is told of the way of the packet (`Flow`) has a say
in what the packet brings about and in nothing else (`packet_direction`). The addresses are that of
the signer and those of the parties that have accounts on this chain. A packet that came back brings
nothing about. A transfer brings about the same at both ends of its channel, with the counters
exchanged.
-/

namespace ChainRecord

/-- Addresses are recorded with the roles and the texts they are given. -/
theorem Reading.Scope.map_ref_addresses (scope : Scope) (refs : List (Record.Role × String)) :
    (scope.addresses refs).map (fun address ↦ (address.role, address.address)) = refs := by
  rw [Scope.addresses, List.map_map]
  exact List.map_id refs

namespace IbcChannel

open Reading

/-! ### Messages about a packet -/

/-- An acknowledgement tells of an error: it is a text of a JSON object with that key. -/
def SaysError (acknowledgement : Bytes) : Prop :=
  ∃ members text value, acknowledgement = Wire.Textual.toBytes .string text ∧
    Json.TextForm (.object members) text ∧ ("error", value) ∈ members

theorem isRefusal_iff {acknowledgement : Bytes} :
    isRefusal acknowledgement = true ↔ SaysError acknowledgement := by
  constructor
  · intro h
    unfold isRefusal at h
    split at h
    · rename_i members hmembers
      obtain ⟨text, hbytes, htext⟩ := Json.membersOfBytes?_eq_some_iff.1 hmembers
      obtain ⟨value, hvalue⟩ := Json.hasKey_iff.1 h
      exact ⟨members, text, value, hbytes, htext, hvalue⟩
    · cases h
  · rintro ⟨members, text, value, rfl, htext, hvalue⟩
    rw [isRefusal, Json.membersOfBytes?_eq_some htext]
    exact Json.hasKey_iff.2 ⟨value, hvalue⟩

/-- A message of a signer tells what became of a packet. -/
inductive Tells (signer : String) (packet? : Option Packet) : Flow → Message → Prop
  /-- It was received. -/
  | received {m : MsgRecvPacket} : m.signer = signer → m.packet = packet? →
      Tells signer packet? .received (.known (.ibcChannel .recvPacket) m)
  /-- It took effect on the other chain. -/
  | acknowledged {m : MsgAcknowledgement} : m.signer = signer → m.packet = packet? →
      ¬ SaysError m.acknowledgement →
      Tells signer packet? .sent (.known (.ibcChannel .acknowledgement) m)
  /-- The other chain refused it. -/
  | refused {m : MsgAcknowledgement} : m.signer = signer → m.packet = packet? →
      SaysError m.acknowledgement →
      Tells signer packet? .refunded (.known (.ibcChannel .acknowledgement) m)
  /-- It was not delivered in time. -/
  | timeout {m : MsgTimeout} : m.signer = signer → m.packet = packet? →
      Tells signer packet? .refunded (.known (.ibcChannel .timeout) m)
  /-- The channel was closed before it was delivered. -/
  | timeoutOnClose {m : MsgTimeoutOnClose} : m.signer = signer → m.packet = packet? →
      Tells signer packet? .refunded (.known (.ibcChannel .timeoutOnClose) m)

/-- All of them are read by one function. -/
theorem Tells.read_eq {signer : String} {packet? : Option Packet} {flow : Flow} {message : Message}
    (h : Tells signer packet? flow message) (scope : Scope) :
    message.read scope = .ok (readPacket scope signer flow packet?) := by
  cases h with
  | received hsigner hpacket | timeout hsigner hpacket | timeoutOnClose hsigner hpacket =>
    rw [← hsigner, ← hpacket]
    rfl
  | @acknowledged m hsigner hpacket herror =>
    have hrefusal : isRefusal m.acknowledgement = false :=
      Bool.eq_false_iff.2 fun h ↦ herror (isRefusal_iff.1 h)
    rw [Message.read, read, hrefusal, ← hsigner, ← hpacket]
    rfl
  | @refused m hsigner hpacket herror =>
    rw [Message.read, read, isRefusal_iff.2 herror, ← hsigner, ← hpacket]
    rfl

theorem Tells.record_eq {signer : String} {packet? : Option Packet} {flow : Flow}
    {message : Message} (h : Tells signer packet? flow message) (d : Decoder) (block : Block)
    (position : Nat) (status : Status) :
    message.record d block position status =
      .ok (message.stamp (outermost d block position status)
        (readPacket (outermost d block position status) signer flow packet?)) := by
  rw [Message.record, Message.recordIn, h.read_eq]

/-! ### Parties -/

/-- The sender and the receiver of the transfer in a packet. There are none without a packet, in a
packet that is addressed to interchain accounts, and in one that carries something else. -/
def partiesOf (settings : Settings) (packet? : Option Packet) : List (Record.Role × String) :=
  match tokenPayload? settings packet? with
  | none => []
  | some (_, data) => [(.sender, data.sender), (.receiver, data.receiver)]

/-- A text is the address of an account on this chain. -/
def BelongsHere (d : Decoder) (address : String) : Prop :=
  ∃ a, d.addressCodec.decode address = some a ∧ a.humanPart = d.settings.addressPrefix

theorem isLocal_iff {d : Decoder} {address : String} :
    d.settings.isLocal address d.addressCodec = true ↔ BelongsHere d address := by
  rw [Settings.isLocal, BelongsHere]
  cases d.addressCodec.decode address <;> simp

/-- Those of the parties who have accounts on this chain. -/
def localsOf (d : Decoder) (packet? : Option Packet) : List (Record.Role × String) :=
  (partiesOf d.settings packet?).filter fun party ↦
    d.settings.isLocal party.2 d.addressCodec

theorem mem_localsOf_iff {d : Decoder} {packet? : Option Packet} {party : Record.Role × String}
    (h : party ∈ partiesOf d.settings packet?) :
    party ∈ localsOf d packet? ↔ BelongsHere d party.2 := by
  rw [localsOf, List.mem_filter, isLocal_iff, and_iff_right h]

/-- Whichever way the packet goes, the addresses and the payload are the same. -/
theorem readPacket_eq (scope : Scope) (signer : String) (flow : Flow) (packet? : Option Packet) :
    readPacket scope signer flow packet? =
      { addresses := scope.addresses ((.signer, signer) :: localsOf scope.decoder packet?)
        packet := (readPacket scope signer .refunded packet?).packet
        entities := (readPacket scope signer flow packet?).entities } := by
  cases packet? with
  | none => rfl
  | some packet =>
    rw [readPacket, readPacket, localsOf, partiesOf, tokenPayload?, transferIn?]
    by_cases hport : packet.destinationPort = scope.settings.icaHostPort
    · rw [if_pos hport, if_pos hport, if_pos hport]
      rfl
    · rw [if_neg hport, if_neg hport, if_neg hport]
      cases transferOf? packet.data <;> rfl

/-! ### Ends of a channel -/

/-- What a transfer brings about where it is received, and where it was sent from. Both have a
record of the transfer and one of the channel, and these differ in the end of the channel and in the
counter that they add to. -/
inductive SettledAtEnds (packet : Packet) : Record.Entities → Record.Entities → Prop
  /-- The two records at the source are those at the destination but for these differences. -/
  | mk {channel : Record.Channel} {transfer : Record.Transfer} :
      channel.id = packet.destinationChannel → channel.portId = packet.destinationPort →
      transfer.channelId = packet.destinationChannel → transfer.port = packet.destinationPort →
      channel.sent = .zero →
      SettledAtEnds packet { channel := some channel, transfer := some transfer }
        { channel := some
            { channel with
              id := packet.sourceChannel
              portId := packet.sourcePort
              received := .zero
              sent := channel.received }
          transfer := some
            { transfer with
              channelId := packet.sourceChannel
              port := packet.sourcePort } }

theorem settledAtEnds_transferEntities (scope : Scope) (packet : Packet)
    (data : Record.TransferData) :
    SettledAtEnds packet (transferEntities scope packet data .received)
      (transferEntities scope packet data .sent) :=
  .mk rfl rfl rfl rfl rfl

/-- A packet that came back brings nothing about, executed or not. -/
theorem stamp_refunded (message : Message) (scope : Scope) (signer : String)
    (packet? : Option Packet) :
    (message.stamp scope (readPacket scope signer .refunded packet?)).entities = .empty := by
  unfold Message.stamp
  cases scope.status with
  | failed => rfl
  | success =>
    dsimp only
    rw [readPacket_entities]
    cases tokenPayload? scope.settings packet? <;> rfl

/-- **The way of a packet only decides what it brings about.** However many messages of one signer
tell of a packet, all are recorded with the same addresses and the same payload. The addresses are
the signer, and those of the parties in the payload that have accounts on this chain, in order: no
other one is among them and none of these is left out. A packet that came back brings nothing about,
and a transfer that took effect brings about the same at both ends of its channel. -/
theorem packet_direction (d : Decoder) (block : Block) (position : Nat) (status : Status)
    (signer : String) (packet? : Option Packet) :
    ∃ addresses payload locals,
      addresses.map (fun address : Record.Address ↦ (address.role, address.address)) =
        (.signer, signer) :: locals ∧
      locals.Sublist (partiesOf d.settings packet?) ∧
      (∀ party ∈ partiesOf d.settings packet?, party ∈ locals ↔ BelongsHere d party.2) ∧
      (∀ flow message, Tells signer packet? flow message →
        ∃ r, message.record d block position status = .ok r ∧ r.addresses = addresses ∧
          r.packet = payload ∧ (flow = .refunded → r.entities = .empty)) ∧
      ∀ message message' packet data, Tells signer packet? .received message →
        Tells signer packet? .sent message' →
        tokenPayload? d.settings packet? = some (packet, data) → status = .success →
        ∃ r r', message.record d block position status = .ok r ∧
          message'.record d block position status = .ok r' ∧
          SettledAtEnds packet r.entities r'.entities := by
  refine ⟨_,
    (readPacket (outermost d block position status) signer .refunded packet?).packet,
    localsOf d packet?, (outermost d block position status).map_ref_addresses _,
    List.filter_sublist, fun party ↦ mem_localsOf_iff, fun flow message h ↦ ?_, ?_⟩
  · refine ⟨_, h.record_eq d block position status, ?_, ?_, fun hflow ↦ ?_⟩
    · rw [readPacket_eq]
      rfl
    · rw [readPacket_eq]
      rfl
    · rw [hflow]
      exact stamp_refunded message _ signer packet?
  · rintro message message' packet data h h' hpayload rfl
    refine ⟨_, _, h.record_eq .., h'.record_eq .., ?_⟩
    show SettledAtEnds packet (readPacket _ signer .received packet?).entities
      (readPacket _ signer .sent packet?).entities
    rw [readPacket_entities, readPacket_entities, outermost_settings, hpayload]
    exact settledAtEnds_transferEntities _ packet _

/-- A packet with a transfer from another chain to an account on this one. -/
def homeboundPacket : Packet where
  sequence := 1
  sourcePort := "transfer"
  sourceChannel := "channel-2"
  destinationPort := "transfer"
  destinationChannel := "channel-0"
  data :=
    Wire.Textual.toBytes .string
      ("\x7b\"amount\":\"5\",\"denom\":\"transfer/channel-2/utia\",\"sender\":\"osmo1sender\"," ++
        "\"receiver\":\"celestia1j33593mn9urzydakw06jdun8f37shlucmhr8p6\"\x7d")
  timeoutHeight := none
  timeoutTimestamp := 0

/-- The acknowledgement of a packet that took effect. -/
def resultText : Bytes :=
  Wire.Textual.toBytes .string "\x7b\"result\":\"AQ==\"\x7d"

/-- Of the homebound transfer the receiver is local and the sender is not. It is settled at both
ends of its channel, and a timeout has the same addresses and payload. -/
theorem packet_direction_homebound :
    ∃ addresses payload locals r r' r'',
      addresses.map (fun address : Record.Address ↦ (address.role, address.address)) =
        (.signer, "relayer") :: locals ∧
      (.receiver, "celestia1j33593mn9urzydakw06jdun8f37shlucmhr8p6") ∈ locals ∧
      (.sender, "osmo1sender") ∉ locals ∧
      Message.record {} ⟨100, ⟨1700000000, 0⟩⟩
        (.known (.ibcChannel .recvPacket) ⟨some homeboundPacket, [], none, "relayer"⟩) 0 .success =
          .ok r ∧
      Message.record {} ⟨100, ⟨1700000000, 0⟩⟩
        (.known (.ibcChannel .acknowledgement)
          ⟨some homeboundPacket, resultText, [], none, "relayer"⟩) 0 .success = .ok r' ∧
      SettledAtEnds homeboundPacket r.entities r'.entities ∧
      Message.record {} ⟨100, ⟨1700000000, 0⟩⟩
        (.known (.ibcChannel .timeout) ⟨some homeboundPacket, [], none, 0, "relayer"⟩) 0 .success =
          .ok r'' ∧
      r''.addresses = addresses ∧ r''.packet = payload ∧ r''.entities = .empty := by
  have hparties : partiesOf {} (some homeboundPacket) =
      [(.sender, "osmo1sender"),
        (.receiver, "celestia1j33593mn9urzydakw06jdun8f37shlucmhr8p6")] := by decide +kernel
  have hresult : ¬ SaysError resultText := by
    rw [← isRefusal_iff]
    decide +kernel
  obtain ⟨data, hpayload⟩ : ∃ data, tokenPayload? {} (some homeboundPacket) =
      some (homeboundPacket, data) := by
    have htransfer : (transferOf? homeboundPacket.data).isSome = true := by decide +kernel
    obtain ⟨data, hdata⟩ := Option.isSome_iff_exists.1 htransfer
    exact ⟨data, by rw [tokenPayload?, if_neg (by decide), hdata]; rfl⟩
  obtain ⟨addresses, payload, locals, haddresses, -, hlocals, halike, hsettled⟩ :=
    packet_direction {} ⟨100, ⟨1700000000, 0⟩⟩ 0 .success "relayer" (some homeboundPacket)
  rw [hparties] at hlocals
  obtain ⟨r, r', hr, hr', hends⟩ := hsettled _ _ _ _
    (.received (m := ⟨some homeboundPacket, [], none, "relayer"⟩) rfl rfl)
    (.acknowledged (m := ⟨some homeboundPacket, resultText, [], none, "relayer"⟩) rfl rfl hresult)
    hpayload rfl
  obtain ⟨r'', hr'', haddresses'', hpayload'', hempty⟩ := halike _ _
    (.timeout (m := ⟨some homeboundPacket, [], none, 0, "relayer"⟩) rfl rfl)
  refine ⟨addresses, payload, locals, r, r', r'', haddresses, (hlocals _ (by simp)).2 ?_,
    fun hmem ↦ ?_, hr, hr', hends, hr'', haddresses'', hpayload'', hempty rfl⟩
  · exact isLocal_iff.1 (by decide +kernel)
  · have hlocal := isLocal_iff.2 ((hlocals _ (by simp)).1 hmem)
    exact absurd hlocal (by decide +kernel)

end IbcChannel

end ChainRecord
