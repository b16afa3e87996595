import ChainRecord.Schema.Base
import ChainRecord.Schema.Tag

/-!
# Messages about channels and packets

The handshake by which two chains open a channel, and the packets that are relayed over it.
-/

namespace ChainRecord.IbcChannel

/-- The other end of a channel. -/
structure Counterparty where
  portId : String
  channelId : String

def Counterparty.shape : Wire.Shape Counterparty :=
  .mk "Counterparty"
    (.cons 1 "port_id" .string <|
      .cons 2 "channel_id" .string .nil)
    (fun (portId, channelId, _) ↦ ⟨portId, channelId⟩)
    (fun m ↦ (m.portId, m.channelId, ()))

/-- An end of a channel. -/
structure Channel where
  state : Int32
  ordering : Int32
  counterparty : Option Counterparty
  connectionHops : List String
  version : String

def Channel.shape : Wire.Shape Channel :=
  .mk "Channel"
    (.cons 1 "state" .int32 <|
      .cons 2 "ordering" .int32 <|
      .cons 3 "counterparty" (.message Counterparty.shape) <|
      .cons 4 "connection_hops" .strings <|
      .cons 5 "version" .string .nil)
    (fun (state, ordering, counterparty, connectionHops, version, _) ↦
      ⟨state, ordering, counterparty, connectionHops, version⟩)
    (fun m ↦ (m.state, m.ordering, m.counterparty, m.connectionHops, m.version, ()))

/-- Data sent over a channel, with both of its ends. -/
structure Packet where
  sequence : UInt64
  sourcePort : String
  sourceChannel : String
  destinationPort : String
  destinationChannel : String
  data : Bytes
  timeoutHeight : Option Height
  timeoutTimestamp : UInt64

def Packet.shape : Wire.Shape Packet :=
  .mk "Packet"
    (.cons 1 "sequence" .uint64 <|
      .cons 2 "source_port" .string <|
      .cons 3 "source_channel" .string <|
      .cons 4 "destination_port" .string <|
      .cons 5 "destination_channel" .string <|
      .cons 6 "data" .bytes <|
      .cons 7 "timeout_height" (.message Height.shape) <|
      .cons 8 "timeout_timestamp" .uint64 .nil)
    (fun (sequence, sourcePort, sourceChannel, destinationPort, destinationChannel, data,
         timeoutHeight, timeoutTimestamp, _) ↦
      ⟨sequence, sourcePort, sourceChannel, destinationPort, destinationChannel, data,
       timeoutHeight, timeoutTimestamp⟩)
    (fun m ↦
      (m.sequence, m.sourcePort, m.sourceChannel, m.destinationPort, m.destinationChannel, m.data,
       m.timeoutHeight, m.timeoutTimestamp, ()))

/-- Begins a handshake. -/
structure MsgChannelOpenInit where
  portId : String
  channel : Option Channel
  signer : String

def MsgChannelOpenInit.shape : Wire.Shape MsgChannelOpenInit :=
  .mk "MsgChannelOpenInit"
    (.cons 1 "port_id" .string <|
      .cons 2 "channel" (.message Channel.shape) <|
      .cons 3 "signer" .string .nil)
    (fun (portId, channel, signer, _) ↦ ⟨portId, channel, signer⟩)
    (fun m ↦ (m.portId, m.channel, m.signer, ()))

/-- Answers the beginning of a handshake. -/
structure MsgChannelOpenTry where
  portId : String
  channel : Option Channel
  counterpartyVersion : String
  proofInit : Bytes
  proofHeight : Option Height
  signer : String

def MsgChannelOpenTry.shape : Wire.Shape MsgChannelOpenTry :=
  .mk "MsgChannelOpenTry"
    (.cons 1 "port_id" .string <|
      .cons 3 "channel" (.message Channel.shape) <|
      .cons 4 "counterparty_version" .string <|
      .cons 5 "proof_init" .bytes <|
      .cons 6 "proof_height" (.message Height.shape) <|
      .cons 7 "signer" .string .nil)
    (fun (portId, channel, counterpartyVersion, proofInit, proofHeight, signer, _) ↦
      ⟨portId, channel, counterpartyVersion, proofInit, proofHeight, signer⟩)
    (fun m ↦ (m.portId, m.channel, m.counterpartyVersion, m.proofInit, m.proofHeight, m.signer, ()))

/-- Acknowledges the answer. -/
structure MsgChannelOpenAck where
  portId : String
  channelId : String
  counterpartyChannelId : String
  counterpartyVersion : String
  proofTry : Bytes
  proofHeight : Option Height
  signer : String

def MsgChannelOpenAck.shape : Wire.Shape MsgChannelOpenAck :=
  .mk "MsgChannelOpenAck"
    (.cons 1 "port_id" .string <|
      .cons 2 "channel_id" .string <|
      .cons 3 "counterparty_channel_id" .string <|
      .cons 4 "counterparty_version" .string <|
      .cons 5 "proof_try" .bytes <|
      .cons 6 "proof_height" (.message Height.shape) <|
      .cons 7 "signer" .string .nil)
    (fun (portId, channelId, counterpartyChannelId, counterpartyVersion, proofTry,
         proofHeight, signer, _) ↦
      ⟨portId, channelId, counterpartyChannelId, counterpartyVersion, proofTry, proofHeight,
       signer⟩)
    (fun m ↦
      (m.portId, m.channelId, m.counterpartyChannelId, m.counterpartyVersion, m.proofTry,
       m.proofHeight, m.signer, ()))

/-- Confirms the acknowledgement. -/
structure MsgChannelOpenConfirm where
  portId : String
  channelId : String
  proofAck : Bytes
  proofHeight : Option Height
  signer : String

def MsgChannelOpenConfirm.shape : Wire.Shape MsgChannelOpenConfirm :=
  .mk "MsgChannelOpenConfirm"
    (.cons 1 "port_id" .string <|
      .cons 2 "channel_id" .string <|
      .cons 3 "proof_ack" .bytes <|
      .cons 4 "proof_height" (.message Height.shape) <|
      .cons 5 "signer" .string .nil)
    (fun (portId, channelId, proofAck, proofHeight, signer, _) ↦
      ⟨portId, channelId, proofAck, proofHeight, signer⟩)
    (fun m ↦ (m.portId, m.channelId, m.proofAck, m.proofHeight, m.signer, ()))

/-- Begins to close a channel. -/
structure MsgChannelCloseInit where
  portId : String
  channelId : String
  signer : String

def MsgChannelCloseInit.shape : Wire.Shape MsgChannelCloseInit :=
  .mk "MsgChannelCloseInit"
    (.cons 1 "port_id" .string <|
      .cons 2 "channel_id" .string <|
      .cons 3 "signer" .string .nil)
    (fun (portId, channelId, signer, _) ↦ ⟨portId, channelId, signer⟩)
    (fun m ↦ (m.portId, m.channelId, m.signer, ()))

/-- Confirms that a channel is closed. -/
structure MsgChannelCloseConfirm where
  portId : String
  channelId : String
  proofInit : Bytes
  proofHeight : Option Height
  signer : String

def MsgChannelCloseConfirm.shape : Wire.Shape MsgChannelCloseConfirm :=
  .mk "MsgChannelCloseConfirm"
    (.cons 1 "port_id" .string <|
      .cons 2 "channel_id" .string <|
      .cons 3 "proof_init" .bytes <|
      .cons 4 "proof_height" (.message Height.shape) <|
      .cons 5 "signer" .string .nil)
    (fun (portId, channelId, proofInit, proofHeight, signer, _) ↦
      ⟨portId, channelId, proofInit, proofHeight, signer⟩)
    (fun m ↦ (m.portId, m.channelId, m.proofInit, m.proofHeight, m.signer, ()))

/-- Delivers a packet of another chain. -/
structure MsgRecvPacket where
  packet : Option Packet
  proofCommitment : Bytes
  proofHeight : Option Height
  signer : String

def MsgRecvPacket.shape : Wire.Shape MsgRecvPacket :=
  .mk "MsgRecvPacket"
    (.cons 1 "packet" (.message Packet.shape) <|
      .cons 2 "proof_commitment" .bytes <|
      .cons 3 "proof_height" (.message Height.shape) <|
      .cons 4 "signer" .string .nil)
    (fun (packet, proofCommitment, proofHeight, signer, _) ↦
      ⟨packet, proofCommitment, proofHeight, signer⟩)
    (fun m ↦ (m.packet, m.proofCommitment, m.proofHeight, m.signer, ()))

/-- Returns a packet that was not delivered in time. -/
structure MsgTimeout where
  packet : Option Packet
  proofUnreceived : Bytes
  proofHeight : Option Height
  nextSequenceRecv : UInt64
  signer : String

def MsgTimeout.shape : Wire.Shape MsgTimeout :=
  .mk "MsgTimeout"
    (.cons 1 "packet" (.message Packet.shape) <|
      .cons 2 "proof_unreceived" .bytes <|
      .cons 3 "proof_height" (.message Height.shape) <|
      .cons 4 "next_sequence_recv" .uint64 <|
      .cons 5 "signer" .string .nil)
    (fun (packet, proofUnreceived, proofHeight, nextSequenceRecv, signer, _) ↦
      ⟨packet, proofUnreceived, proofHeight, nextSequenceRecv, signer⟩)
    (fun m ↦ (m.packet, m.proofUnreceived, m.proofHeight, m.nextSequenceRecv, m.signer, ()))

/-- Returns a packet that was not delivered before its channel was closed. -/
structure MsgTimeoutOnClose where
  packet : Option Packet
  proofUnreceived : Bytes
  proofClose : Bytes
  proofHeight : Option Height
  nextSequenceRecv : UInt64
  signer : String

def MsgTimeoutOnClose.shape : Wire.Shape MsgTimeoutOnClose :=
  .mk "MsgTimeoutOnClose"
    (.cons 1 "packet" (.message Packet.shape) <|
      .cons 2 "proof_unreceived" .bytes <|
      .cons 3 "proof_close" .bytes <|
      .cons 4 "proof_height" (.message Height.shape) <|
      .cons 5 "next_sequence_recv" .uint64 <|
      .cons 6 "signer" .string .nil)
    (fun (packet, proofUnreceived, proofClose, proofHeight, nextSequenceRecv, signer, _) ↦
      ⟨packet, proofUnreceived, proofClose, proofHeight, nextSequenceRecv, signer⟩)
    (fun m ↦
      (m.packet, m.proofUnreceived, m.proofClose, m.proofHeight, m.nextSequenceRecv, m.signer,
       ()))

/-- Returns the answer to a packet of this chain. -/
structure MsgAcknowledgement where
  packet : Option Packet
  acknowledgement : Bytes
  proofAcked : Bytes
  proofHeight : Option Height
  signer : String

def MsgAcknowledgement.shape : Wire.Shape MsgAcknowledgement :=
  .mk "MsgAcknowledgement"
    (.cons 1 "packet" (.message Packet.shape) <|
      .cons 2 "acknowledgement" .bytes <|
      .cons 3 "proof_acked" .bytes <|
      .cons 4 "proof_height" (.message Height.shape) <|
      .cons 5 "signer" .string .nil)
    (fun (packet, acknowledgement, proofAcked, proofHeight, signer, _) ↦
      ⟨packet, acknowledgement, proofAcked, proofHeight, signer⟩)
    (fun m ↦ (m.packet, m.acknowledgement, m.proofAcked, m.proofHeight, m.signer, ()))

/-! ### The kinds of messages -/

inductive Kind where
  | openInit
  | openTry
  | openAck
  | openConfirm
  | closeInit
  | closeConfirm
  | recvPacket
  | timeout
  | timeoutOnClose
  | acknowledgement
  deriving DecidableEq

namespace Kind

def all : List Kind :=
    [.openInit, .openTry, .openAck, .openConfirm, .closeInit, .closeConfirm, .recvPacket,
    .timeout, .timeoutOnClose, .acknowledgement]

@[reducible] def Body : Kind → Type
  | .openInit => MsgChannelOpenInit
  | .openTry => MsgChannelOpenTry
  | .openAck => MsgChannelOpenAck
  | .openConfirm => MsgChannelOpenConfirm
  | .closeInit => MsgChannelCloseInit
  | .closeConfirm => MsgChannelCloseConfirm
  | .recvPacket => MsgRecvPacket
  | .timeout => MsgTimeout
  | .timeoutOnClose => MsgTimeoutOnClose
  | .acknowledgement => MsgAcknowledgement

def typeUrl : Kind → String
  | .openInit => "/ibc.core.channel.v1.MsgChannelOpenInit"
  | .openTry => "/ibc.core.channel.v1.MsgChannelOpenTry"
  | .openAck => "/ibc.core.channel.v1.MsgChannelOpenAck"
  | .openConfirm => "/ibc.core.channel.v1.MsgChannelOpenConfirm"
  | .closeInit => "/ibc.core.channel.v1.MsgChannelCloseInit"
  | .closeConfirm => "/ibc.core.channel.v1.MsgChannelCloseConfirm"
  | .recvPacket => "/ibc.core.channel.v1.MsgRecvPacket"
  | .timeout => "/ibc.core.channel.v1.MsgTimeout"
  | .timeoutOnClose => "/ibc.core.channel.v1.MsgTimeoutOnClose"
  | .acknowledgement => "/ibc.core.channel.v1.MsgAcknowledgement"

def tag : Kind → Tag
  | .openInit => .channelOpenInit
  | .openTry => .channelOpenTry
  | .openAck => .channelOpenAck
  | .openConfirm => .channelOpenConfirm
  | .closeInit => .channelCloseInit
  | .closeConfirm => .channelCloseConfirm
  | .recvPacket => .recvPacket
  | .timeout => .timeout
  | .timeoutOnClose => .timeoutOnClose
  | .acknowledgement => .acknowledgement

def shape : (kind : Kind) → Wire.Shape kind.Body
  | .openInit => MsgChannelOpenInit.shape
  | .openTry => MsgChannelOpenTry.shape
  | .openAck => MsgChannelOpenAck.shape
  | .openConfirm => MsgChannelOpenConfirm.shape
  | .closeInit => MsgChannelCloseInit.shape
  | .closeConfirm => MsgChannelCloseConfirm.shape
  | .recvPacket => MsgRecvPacket.shape
  | .timeout => MsgTimeout.shape
  | .timeoutOnClose => MsgTimeoutOnClose.shape
  | .acknowledgement => MsgAcknowledgement.shape

def signers : (kind : Kind) → kind.Body → List String
  | .openInit, m => [m.signer]
  | .openTry, m => [m.signer]
  | .openAck, m => [m.signer]
  | .openConfirm, m => [m.signer]
  | .closeInit, m => [m.signer]
  | .closeConfirm, m => [m.signer]
  | .recvPacket, m => [m.signer]
  | .timeout, m => [m.signer]
  | .timeoutOnClose, m => [m.signer]
  | .acknowledgement, m => [m.signer]

end Kind

end ChainRecord.IbcChannel
