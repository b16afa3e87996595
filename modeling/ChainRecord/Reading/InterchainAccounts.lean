import ChainRecord.Attributes
import ChainRecord.Reading.Scope

/-!
# Reading messages of interchain accounts

A packet to an interchain account carries a transaction of wrapped messages. Relayed packets have it
in a JSON object, with the transaction in base 64; the wire form is understood as well. What the
packet says of itself does not decide whether the transaction can be read: of a transaction that is
none no wrapped message is recorded, and the packet is recorded all the same.
-/

namespace ChainRecord.InterchainAccounts

open Reading

/-- The name of a packet type, which is its number where it has no name. -/
def packetTypeName (n : Int) : String :=
  if n = 0 then "TYPE_UNSPECIFIED"
  else if n = 1 then "TYPE_EXECUTE_TX"
  else toString n

/-- The name of a packet type that is given in JSON, by name or number. -/
def packetTypeOf : Option Json → String
  | some (.string name) => name
  | some (.number (.int n)) => packetTypeName n
  | some (.number n) => n.text
  | _ => packetTypeName 0

/-- Records of the messages of a transaction. -/
def nestedMessages (scope : Scope) (transaction : Bytes) : List Record.NestedMessage :=
  match CosmosTx.shape.decode transaction with
  | .ok tx => tx.messages.map scope.nested
  | .error _ => []

/-- The record of packet data. -/
def packetOf (scope : Scope) (data : InterchainAccountPacketData) : Record.Packet :=
  .interchainAccount (packetTypeName data.packetType.toInt) data.memo
    (nestedMessages scope data.data)

/-- The record of packet data in JSON, if the transaction is in base 64. -/
def packetOfMembers? (scope : Scope) (members : Json.Members) : Option Record.Packet :=
  (Base64.decode? (Attributes.text members "data")).map fun transaction ↦
    .interchainAccount (packetTypeOf (Json.lookup? members "type"))
      (Attributes.text members "memo") (nestedMessages scope transaction)

/-- The record of the payload of a packet, which may be in either form. Bytes that are a JSON object
are not tried in wire form. -/
def packetOfPayload? (scope : Scope) (payload : Bytes) : Option Record.Packet :=
  match Json.membersOfBytes? payload with
  | some members => packetOfMembers? scope members
  | none =>
    (InterchainAccountPacketData.shape.decode payload).toOption.map (packetOf scope)

/-- Reads a message. -/
def read (scope : Scope) : (kind : Kind) → kind.Body → Findings
  | .register, m => scope.only [(.owner, m.owner)]
  | .sendTx, m =>
    { addresses := scope.addresses [(.owner, m.owner)]
      packet := m.packetData.map (packetOf scope) }

end ChainRecord.InterchainAccounts
