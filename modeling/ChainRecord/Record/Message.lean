import ChainRecord.Message
import ChainRecord.Record.Address
import ChainRecord.Record.Entities

/-!
# Records of messages

The record of a message is what an archive keeps of it: its tag, its field map, the addresses that
occur in it and what it brings about. Messages that are wrapped in others have a shorter record.
-/

namespace ChainRecord.Record

/-- A message that is carried by another one. -/
structure NestedMessage where
  typeUrl : String
  tag : Tag
  data : Json.Members

/-- The record of a wrapped message that is left as it is. -/
def NestedMessage.undecoded (any : Any) : NestedMessage where
  typeUrl := any.typeUrl
  tag := .unknown
  data := (Message.unknown any).fields

/-- The payload of a packet. -/
inductive Packet where
  /-- A transfer. -/
  | transfer (data : TransferData)
  /-- A transaction for an interchain account. -/
  | interchainAccount (packetType memo : String) (messages : List NestedMessage)

/-- The record of a message. -/
structure Message where
  tag : Tag
  typeUrl : String
  height : UInt64
  time : Time
  /-- The place of the message in its transaction, counted from zero. -/
  position : Nat
  data : Json.Members
  /-- The length of its canonical form, where it is recorded. -/
  size : Option Nat
  /-- The bytes of the blobs it pays for. -/
  blobsSize : UInt64
  addresses : List Address
  /-- What messages it wraps. -/
  internalMessages : List String
  packet : Option Packet
  entities : Entities

end ChainRecord.Record
