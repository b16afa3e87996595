import ChainRecord.Bytes

/-!
# Shapes of messages

A `Shape α` says how values of `α` are laid out on the wire: a name, and fields in order, each with
a number, a name and a kind. A kind fixes both the layout of a field and the type of its value.

Fields describe a row, a nested pair of their values. A shape carries the two maps between the
rows of its fields and the structure that programs use, which undo each other, so that reading,
writing and rendering are defined once, for rows, and hold for every message.
-/

namespace ChainRecord.Wire

/-- Kinds of values that are written as a number. Enumerations are `int32`: a number that names no
member is kept. -/
inductive Numeric : Type → Type where
  /-- A truth value; every number but zero reads as true. -/
  | bool : Numeric Bool
  /-- An unsigned number of thirty-two bits. -/
  | uint32 : Numeric UInt32
  /-- An unsigned number of sixty-four bits. -/
  | uint64 : Numeric UInt64
  /-- A signed number of thirty-two bits, extended to sixty-four on the wire. -/
  | int32 : Numeric Int32
  /-- A signed number of sixty-four bits. -/
  | int64 : Numeric Int64

/-- Kinds of values that are written as a length and bytes. -/
inductive Textual : Type → Type where
  /-- A text in UTF-8. -/
  | string : Textual String
  /-- Bytes. -/
  | bytes : Textual Bytes

mutual

/-- How values of a structure are laid out. -/
inductive Shape : Type → Type 1 where
  /-- A named message whose rows stand for the values of `α`. -/
  | mk {α ρ : Type} (name : String) (fields : Fields ρ) (pack : ρ → α) (unpack : α → ρ)
      (pack_unpack : ∀ a, pack (unpack a) = a := by intro _; rfl)
      (unpack_pack : ∀ r, unpack (pack r) = r := by intro _; rfl) : Shape α

/-- Fields of a message, in order of their numbers. -/
inductive Fields : Type → Type 1 where
  /-- No field. -/
  | nil : Fields Unit
  /-- A field and further fields. -/
  | cons {β ρ : Type} (number : Nat) (name : String) (kind : Kind β) (rest : Fields ρ) :
      Fields (β × ρ)

/-- Kinds of fields. -/
inductive Kind : Type → Type 1 where
  /-- A number; absent when zero. -/
  | number {β : Type} (numeric : Numeric β) : Kind β
  /-- A text or bytes; absent when empty. -/
  | text {β : Type} (textual : Textual β) : Kind β
  /-- Numbers, written together behind one key. -/
  | numbers {β : Type} (numeric : Numeric β) : Kind (List β)
  /-- Texts or byte strings, each behind a key of its own. -/
  | texts {β : Type} (textual : Textual β) : Kind (List β)
  /-- A message that may be absent. -/
  | message {α : Type} (shape : Shape α) : Kind (Option α)
  /-- Messages, each behind a key of its own. -/
  | messages {α : Type} (shape : Shape α) : Kind (List α)

end

/-! ### Abbreviations for schemas -/

namespace Kind

/-- A text. -/
abbrev string : Kind String := .text .string

/-- Bytes. -/
abbrev bytes : Kind Bytes := .text .bytes

/-- A truth value. -/
abbrev bool : Kind Bool := .number .bool

/-- An unsigned number of thirty-two bits. -/
abbrev uint32 : Kind UInt32 := .number .uint32

/-- An unsigned number of sixty-four bits. -/
abbrev uint64 : Kind UInt64 := .number .uint64

/-- A signed number of thirty-two bits. -/
abbrev int32 : Kind Int32 := .number .int32

/-- A signed number of sixty-four bits. -/
abbrev int64 : Kind Int64 := .number .int64

/-- Texts. -/
abbrev strings : Kind (List String) := .texts .string

end Kind

/-! ### Values of absent fields -/

/-- Zero of a kind of number. -/
def Numeric.zero {β : Type} : Numeric β → β
  | .bool => false
  | .uint32 | .uint64 | .int32 | .int64 => 0

/-- The empty text or byte string. -/
def Textual.empty {β : Type} : Textual β → β
  | .string => ""
  | .bytes => []

/-- The value of a field that does not occur. -/
def Kind.absent {β : Type} : Kind β → β
  | .number numeric => numeric.zero
  | .text textual => textual.empty
  | .numbers _ | .texts _ | .messages _ => []
  | .message _ => none

/-- The row in which no field occurs. -/
def Fields.absent {ρ : Type} : Fields ρ → ρ
  | .nil => ()
  | .cons _ _ kind rest => (kind.absent, rest.absent)

/-- The message in which no field occurs. -/
def Shape.absent {α : Type} : Shape α → α
  | .mk _ fields pack _ _ _ => pack fields.absent

/-! ### Numbers and bytes of values -/

/-- The number a value is written as. -/
def Numeric.toWord {β : Type} : Numeric β → β → Nat
  | .bool, b => b.toNat
  | .uint32, n => n.toNat
  | .uint64, n => n.toNat
  | .int32, n => n.toInt64.toUInt64.toNat
  | .int64, n => n.toUInt64.toNat

/-- The value of a number; bits beyond the width of the kind are dropped. -/
def Numeric.ofWord {β : Type} : Numeric β → Nat → β
  | .bool, n => n != 0
  | .uint32, n => UInt32.ofNat n
  | .uint64, n => UInt64.ofNat n
  | .int32, n => (UInt32.ofNat n).toInt32
  | .int64, n => (UInt64.ofNat n).toInt64

/-- The bytes a value is written as. -/
def Textual.toBytes {β : Type} : Textual β → β → Bytes
  | .string, s => s.toUTF8.data.toList
  | .bytes, b => b

/-- The value of bytes. -/
def Textual.ofBytes? {β : Type} : Textual β → Bytes → Option β
  | .string, b => String.fromUTF8? ⟨b.toArray⟩
  | .bytes, b => some b

end ChainRecord.Wire
