import ChainRecord.Reading.InterchainAccounts

/-!
# Reading messages about channels and packets

The messages of the handshake carry only the address of the relayer who signs. The messages about
packets carry a payload besides: a transaction for an interchain account if the packet is addressed
to the port of these, and otherwise a transfer, or something else that is not looked into.

A transfer counts when it takes effect: when it is received, or when its acknowledgement says that
the other chain has received it. Then it is recorded together with what it adds to the counters of
the channel at this chain's end. A transfer that comes back, because it was refused or not delivered
in time, is recorded only as the payload of the packet.
-/

namespace ChainRecord.IbcChannel

open Reading

/-- What a message says of a packet. -/
inductive Flow where
  /-- It came in from the other chain. -/
  | received
  /-- It went out and took effect on the other chain. -/
  | sent
  /-- It went out and came back. -/
  | refunded
  deriving DecidableEq

/-- An end of a channel. -/
structure ChannelEnd where
  channelId : String
  portId : String

/-- The transfer in a payload. A payload without an amount or a denomination, or with an amount that
is none, is no transfer. -/
def transferOf? (payload : Bytes) : Option Record.TransferData := do
  let members ← Json.membersOfBytes? payload
  if Json.hasKey members "amount" && Json.hasKey members "denom" then
    let amount ← (Attributes.decimal members "amount").toOption
    some
      { amount
        denom := Attributes.text members "denom"
        sender := Attributes.text members "sender"
        receiver := Attributes.text members "receiver"
        memo := Attributes.text members "memo" }
  else none

/-- The trace that the sending chain puts in front of a denomination it got over the channel. -/
def traceOf (packet : Packet) : String :=
  packet.sourcePort ++ "/" ++ packet.sourceChannel ++ "/"

/-- The denomination without the trace of the channel, once. -/
def localDenom (packet : Packet) (denom : String) : String :=
  match (traceOf packet).toList.isPrefixOf? denom.toList with
  | some rest => String.ofList rest
  | none => denom

/-- The transfer in a packet, with its denomination as the receiving chain names it. -/
def transferIn? (packet : Packet) : Option Record.TransferData :=
  (transferOf? packet.data).map fun data ↦ { data with denom := localDenom packet data.denom }

/-- Those of the sender and the receiver who have accounts on this chain. -/
def localParties (d : Decoder) (data : Record.TransferData) :
    List (Record.Role × String) :=
  [(.sender, data.sender), (.receiver, data.receiver)].filter fun (_, address) ↦
    d.settings.isLocal address d.addressCodec

/-- The amount of a transfer in the native denomination. -/
def nativePart (settings : Settings) (data : Record.TransferData) : Decimal :=
  if data.denom = settings.nativeDenom then data.amount else Decimal.zero

/-- What a transfer brings about that takes effect at an end of a channel. -/
def settled (scope : Scope) (packet : Packet) (data : Record.TransferData) (here : ChannelEnd)
    (received sent : Decimal) : Record.Entities where
  channel := some
    { id := here.channelId
      portId := here.portId
      received, sent
      height := scope.block.height }
  transfer := some
    { channelId := here.channelId
      port := here.portId
      sender := data.sender
      receiver := data.receiver
      amount := data.amount
      denom := data.denom
      memo := data.memo
      sequence := packet.sequence
      height := scope.block.height
      time := scope.block.time }

/-- What a transfer brings about. -/
def transferEntities (scope : Scope) (packet : Packet) (data : Record.TransferData) :
    Flow → Record.Entities
  | .received =>
    settled scope packet data ⟨packet.destinationChannel, packet.destinationPort⟩
      (nativePart scope.settings data) Decimal.zero
  | .sent =>
    settled scope packet data ⟨packet.sourceChannel, packet.sourcePort⟩
      Decimal.zero (nativePart scope.settings data)
  | .refunded => .empty

/-- What is found in a packet beside the signer of the message. -/
def readPacket (scope : Scope) (signer : String) (flow : Flow) : Option Packet → Findings
  | none => scope.only [(.signer, signer)]
  | some packet =>
    if packet.destinationPort = scope.settings.icaHostPort then
      { addresses := scope.addresses [(.signer, signer)]
        packet := InterchainAccounts.packetOfPayload? scope packet.data }
    else
      match transferIn? packet with
      | none => scope.only [(.signer, signer)]
      | some data =>
        { addresses :=
            scope.addresses ((.signer, signer) :: localParties scope.decoder data)
          packet := some (.transfer data)
          entities := transferEntities scope packet data flow }

/-- Beside the signer there is nothing to be found, a payload for an interchain account, or a
transfer. -/
theorem readPacket_cases (scope : Scope) (signer : String) (flow : Flow)
    (packet? : Option Packet) :
    readPacket scope signer flow packet? = scope.only [(.signer, signer)] ∨
      (∃ packet : Packet, packet? = some packet ∧
        packet.destinationPort = scope.settings.icaHostPort ∧
        readPacket scope signer flow packet? =
          { addresses := scope.addresses [(.signer, signer)]
            packet := InterchainAccounts.packetOfPayload? scope packet.data }) ∨
      ∃ (packet : Packet) (data : Record.TransferData), packet? = some packet ∧
        packet.destinationPort ≠ scope.settings.icaHostPort ∧ transferIn? packet = some data ∧
        readPacket scope signer flow packet? =
          { addresses := scope.addresses ((.signer, signer) :: localParties scope.decoder data)
            packet := some (.transfer data)
            entities := transferEntities scope packet data flow } := by
  cases packet? with
  | none => exact Or.inl rfl
  | some packet =>
    rw [readPacket]
    by_cases hport : packet.destinationPort = scope.settings.icaHostPort
    · exact Or.inr (Or.inl ⟨packet, rfl, hport, if_pos hport⟩)
    · rw [if_neg hport]
      cases hdata : transferIn? packet with
      | none => exact Or.inl rfl
      | some data => exact Or.inr (Or.inr ⟨packet, data, rfl, hport, hdata, rfl⟩)

/-- Whether an acknowledgement says that a packet was refused. -/
def isRefusal (acknowledgement : Bytes) : Bool :=
  match Json.membersOfBytes? acknowledgement with
  | some members => Json.hasKey members "error"
  | none => false

/-- Reads a message. -/
def read (scope : Scope) : (kind : Kind) → kind.Body → Findings
  | .openInit, m => scope.only [(.signer, m.signer)]
  | .openTry, m => scope.only [(.signer, m.signer)]
  | .openAck, m => scope.only [(.signer, m.signer)]
  | .openConfirm, m => scope.only [(.signer, m.signer)]
  | .closeInit, m => scope.only [(.signer, m.signer)]
  | .closeConfirm, m => scope.only [(.signer, m.signer)]
  | .recvPacket, m => readPacket scope m.signer .received m.packet
  | .timeout, m => readPacket scope m.signer .refunded m.packet
  | .timeoutOnClose, m => readPacket scope m.signer .refunded m.packet
  | .acknowledgement, m =>
    readPacket scope m.signer (if isRefusal m.acknowledgement then .refunded else .sent) m.packet

end ChainRecord.IbcChannel
