import ChainRecord.Account
import ChainRecord.Decoder
import ChainRecord.Reading.Inconsistency
import ChainRecord.Record.Message

/-!
# Reading a message

A reader of a module looks at one message and says what it found: addresses with their roles, what
the message brings about, and what it wraps. Beside the message it sees the decoder, the block, the
place in the transaction and whether the transaction was executed, and it may have wrapped messages
recorded.
-/

namespace ChainRecord.Reading

/-- What a reader sees beside the message. -/
structure Scope where
  decoder : Decoder
  block : Block
  /-- The place of the outermost message in its transaction, counted from zero. -/
  position : Nat
  /-- Whether the transaction was executed. -/
  status : Status
  /-- The record of a wrapped message, one level further in. -/
  nested : Any → Record.NestedMessage

/-- The settings of the chain. -/
abbrev Scope.settings (scope : Scope) : Settings :=
  scope.decoder.settings

/-- What a reader found. -/
structure Findings where
  addresses : List Record.Address := []
  blobsSize : UInt64 := 0
  internalMessages : List String := []
  packet : Option Record.Packet := none
  entities : Record.Entities := .empty

/-- The record of an address in a block. -/
def addressIn (d : Decoder) (block : Block) (role : Record.Role) (address : String) :
    Record.Address where
  role
  address
  hash := d.addressCodec.hashOf address
  height := block.height
  lastHeight := block.height
  balance := { currency := d.settings.nativeDenom, total := Decimal.zero }

/-- The record of an address. -/
def Scope.address (scope : Scope) (role : Record.Role) (address : String) : Record.Address :=
  addressIn scope.decoder scope.block role address

/-- The records of addresses, in the given order. Empty texts and texts that are no address are
recorded like others. -/
def Scope.addresses (scope : Scope) (refs : List (Record.Role × String)) : List Record.Address :=
  refs.map fun (role, address) ↦ scope.address role address

/-- Findings that are only addresses. -/
def Scope.only (scope : Scope) (refs : List (Record.Role × String)) : Findings where
  addresses := scope.addresses refs

/-- What stands for a wrapped message in a list: the name of its tag if it is of a known type and
well formed, and its type URL otherwise. -/
def internalName (any : Any) : String :=
  match Message.ofAny any with
  | .ok (.known kind _) => kind.tag.name
  | .ok (.unknown _) | .error _ => any.typeUrl

end ChainRecord.Reading
