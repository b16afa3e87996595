/-!
# Faults of wire data

Why bytes are no message of a schema, and where: a fault is reported with the fields that were
being read, from the innermost to the outermost. A fault in a key is not in any field of the
message the key belongs to, so it is reported with the enclosing fields only.
-/

namespace ChainRecord.Wire

/-- How the value behind a key is laid out. -/
inductive WireType where
  /-- A number in groups of seven bits. -/
  | varint
  /-- Eight bytes. -/
  | fixed64
  /-- A length and that many bytes. -/
  | lengthDelimited
  /-- Fields up to a matching end. -/
  | startGroup
  /-- The end of a group. -/
  | endGroup
  /-- Four bytes. -/
  | fixed32
  deriving DecidableEq, Repr

namespace WireType

/-- The number of a wire type. -/
def code : WireType → Nat
  | .varint => 0
  | .fixed64 => 1
  | .lengthDelimited => 2
  | .startGroup => 3
  | .endGroup => 4
  | .fixed32 => 5

/-- The wire type of a number. -/
def ofCode? : Nat → Option WireType
  | 0 => some .varint
  | 1 => some .fixed64
  | 2 => some .lengthDelimited
  | 3 => some .startGroup
  | 4 => some .endGroup
  | 5 => some .fixed32
  | _ => none

/-- The name of a wire type in fault texts. -/
def name : WireType → String
  | .varint => "Varint"
  | .fixed64 => "SixtyFourBit"
  | .lengthDelimited => "LengthDelimited"
  | .startGroup => "StartGroup"
  | .endGroup => "EndGroup"
  | .fixed32 => "ThirtyTwoBit"

end WireType

/-- What is wrong with wire data. -/
inductive Cause where
  /-- A number does not end within its ten bytes or within the data. -/
  | invalidVarint
  /-- A key has more than thirty-two bits. -/
  | invalidKey (key : Nat)
  /-- A key names no wire type. -/
  | invalidWireType (code : Nat)
  /-- A key has field number zero. -/
  | invalidFieldNumber
  /-- A field has another wire type than its kind. -/
  | unexpectedWireType (actual expected : WireType)
  /-- A length goes beyond the data. -/
  | underflow
  /-- A string is not in UTF-8. -/
  | notUtf8
  /-- The last field of a message goes beyond the message. -/
  | lengthExceeded
  /-- A group is ended that was not begun. -/
  | unexpectedEndGroup
  /-- Messages and groups are nested too deeply. -/
  | recursionLimit
  deriving DecidableEq, Repr

/-- The text of a cause. -/
def Cause.message : Cause → String
  | .invalidVarint => "invalid varint"
  | .invalidKey key => "invalid key value: " ++ toString key
  | .invalidWireType code => "invalid wire type value: " ++ toString code
  | .invalidFieldNumber => "invalid tag value: 0"
  | .unexpectedWireType actual expected =>
    "invalid wire type: " ++ actual.name ++ " (expected " ++ expected.name ++ ")"
  | .underflow => "buffer underflow"
  | .notUtf8 => "invalid string value: data is not UTF-8 encoded"
  | .lengthExceeded => "delimited length exceeded"
  | .unexpectedEndGroup => "unexpected end group tag"
  | .recursionLimit => "recursion limit reached"

/-- A field of a message. -/
structure FieldName where
  /-- The name of the message. -/
  message : String
  /-- The name of the field. -/
  field : String
  deriving DecidableEq, Repr

/-- Field names that fault texts have to mark, because they are also words of the schema
language. -/
def markedFieldNames : List String := ["type"]

/-- A field as it stands in a fault text. -/
def FieldName.label (name : FieldName) : String :=
  let field := if markedFieldNames.contains name.field then "r#" ++ name.field else name.field
  name.message ++ "." ++ field

/-- A cause and the fields it lies in, the innermost first. -/
structure Fault where
  /-- What is wrong. -/
  cause : Cause
  /-- Where it is. -/
  path : List FieldName := []
  deriving DecidableEq, Repr

/-- The fault, seen from outside a field it lies in. -/
def Fault.within (fault : Fault) (name : FieldName) : Fault :=
  { fault with path := fault.path ++ [name] }

/-- The text of a fault. -/
def Fault.message (fault : Fault) : String :=
  "failed to decode Protobuf message: " ++
    String.join (fault.path.map fun name ↦ name.label ++ ": ") ++ fault.cause.message

end ChainRecord.Wire
