import ChainRecord.Bytes.Base64
import ChainRecord.Json
import ChainRecord.Wire.Shape

/-!
# Field maps

The record of a message for archives: a JSON object with every field under its name, also those
that are absent on the wire. Bytes are written in base 64, a message that is absent is null, and
enumerations are numbers.
-/

namespace ChainRecord.Wire

/-- A number as a JSON value. -/
def Numeric.toJson {β : Type} : Numeric β → β → Json
  | .bool, b => .bool b
  | .uint32, n => .ofInt n.toNat
  | .uint64, n => .ofInt n.toNat
  | .int32, n => .ofInt n.toInt
  | .int64, n => .ofInt n.toInt

/-- A text or bytes as a JSON value. -/
def Textual.toJson {β : Type} : Textual β → β → Json
  | .string, s => .string s
  | .bytes, b => .string (Base64.encode b)

mutual

/-- The value of a field as a JSON value. -/
def Kind.toJson {β : Type} : Kind β → β → Json
  | .number numeric, value => numeric.toJson value
  | .text textual, value => textual.toJson value
  | .numbers numeric, values => .array (values.map numeric.toJson)
  | .texts textual, values => .array (values.map textual.toJson)
  | .message shape, value =>
    match value with
    | none => .null
    | some message => .object (shape.fieldMap message)
  | .messages shape, values => .array (values.map fun message ↦ .object (shape.fieldMap message))

/-- A row as members of an object. -/
def Fields.fieldMap {ρ : Type} : Fields ρ → ρ → Json.Members
  | .nil, () => []
  | .cons _ name kind rest, (value, row) => (name, kind.toJson value) :: rest.fieldMap row

/-- The field map of a message. -/
def Shape.fieldMap {α : Type} : Shape α → α → Json.Members
  | .mk _ fields _ unpack _ _, message => fields.fieldMap (unpack message)

end

end ChainRecord.Wire
