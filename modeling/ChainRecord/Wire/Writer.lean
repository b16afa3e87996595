import ChainRecord.Wire.Reader

/-!
# Canonical form of messages

The form every message can be written in: fields in order, numbers in shortest form, repeated
numbers together, and nothing for a field whose value is that of an absent one. A message that is
present is written even if it is empty.

The length of the canonical form is computed without writing it.
-/

namespace ChainRecord.Wire

/-- The number of a key. -/
def Key.code (key : Key) : Nat :=
  8 * key.number + key.wireType.code

/-- Writes a key. -/
def writeKey (number : Nat) (wireType : WireType) : Bytes :=
  writeVarint (Key.code ⟨number, wireType⟩)

/-- Writes a length and bytes. -/
def writeSized (content : Bytes) : Bytes :=
  writeVarint content.length ++ content

/-- Writes numbers one behind the other. -/
def Numeric.writeAll {β : Type} (numeric : Numeric β) (values : List β) : Bytes :=
  values.flatMap fun value ↦ writeVarint (numeric.toWord value)

/-- Whether a number is zero. -/
def Numeric.isZero {β : Type} (numeric : Numeric β) (value : β) : Bool :=
  numeric.toWord value == 0

mutual

/-- Writes a field. -/
def Kind.write {β : Type} : Kind β → Nat → β → Bytes
  | .number numeric, number, value =>
    if numeric.isZero value then []
    else writeKey number .varint ++ writeVarint (numeric.toWord value)
  | .text textual, number, value =>
    let content := textual.toBytes value
    if content.isEmpty then [] else writeKey number .lengthDelimited ++ writeSized content
  | .numbers numeric, number, values =>
    if values.isEmpty then []
    else writeKey number .lengthDelimited ++ writeSized (numeric.writeAll values)
  | .texts textual, number, values =>
    values.flatMap fun value ↦
      writeKey number .lengthDelimited ++ writeSized (textual.toBytes value)
  | .message shape, number, value =>
    match value with
    | none => []
    | some message => writeKey number .lengthDelimited ++ writeSized (shape.encode message)
  | .messages shape, number, values =>
    values.flatMap fun message ↦
      writeKey number .lengthDelimited ++ writeSized (shape.encode message)

/-- Writes a row. -/
def Fields.write {ρ : Type} : Fields ρ → ρ → Bytes
  | .nil, () => []
  | .cons number _ kind rest, (value, row) => kind.write number value ++ rest.write row

/-- The canonical form of a message. -/
def Shape.encode {α : Type} : Shape α → α → Bytes
  | .mk _ fields _ unpack _ _, message => fields.write (unpack message)

end

/-! ### Lengths -/

/-- The length of a key. -/
def keyLength (number : Nat) (wireType : WireType) : Nat :=
  varintLength (Key.code ⟨number, wireType⟩)

/-- The length of content behind a key and its length. -/
def sizedLength (number length : Nat) : Nat :=
  keyLength number .lengthDelimited + varintLength length + length

/-- The sum of lengths. -/
def totalLength {β : Type} (length : β → Nat) (values : List β) : Nat :=
  values.foldr (fun value total ↦ length value + total) 0

mutual

/-- The length of a field. -/
def Kind.length {β : Type} : Kind β → Nat → β → Nat
  | .number numeric, number, value =>
    if numeric.isZero value then 0
    else keyLength number .varint + varintLength (numeric.toWord value)
  | .text textual, number, value =>
    let length := (textual.toBytes value).length
    if length = 0 then 0 else sizedLength number length
  | .numbers numeric, number, values =>
    if values.isEmpty then 0
    else sizedLength number (totalLength (fun value ↦ varintLength (numeric.toWord value)) values)
  | .texts textual, number, values =>
    totalLength (fun value ↦ sizedLength number (textual.toBytes value).length) values
  | .message shape, number, value =>
    match value with
    | none => 0
    | some message => sizedLength number (shape.encodedLength message)
  | .messages shape, number, values =>
    totalLength (fun message ↦ sizedLength number (shape.encodedLength message)) values

/-- The length of a row. -/
def Fields.length {ρ : Type} : Fields ρ → ρ → Nat
  | .nil, () => 0
  | .cons number _ kind rest, (value, row) => kind.length number value + rest.length row

/-- The length of the canonical form of a message. -/
def Shape.encodedLength {α : Type} : Shape α → α → Nat
  | .mk _ fields _ unpack _ _, message => fields.length (unpack message)

end

end ChainRecord.Wire
