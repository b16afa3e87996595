import ChainRecord.Wire.Fault
import ChainRecord.Wire.Shape
import ChainRecord.Wire.Varint

/-!
# Reading messages

Readers take the bytes that are left and return what they read together with the rest. The rest is
always that of the whole data, also inside a message of known length: a field that runs past the
end of its message is read to its own end, and the excess is noticed behind it.

A message is read field by field into the message in which no field occurs. A later occurrence of
a number or text replaces the earlier one, a later occurrence of a message is read into it, and
repeated fields collect. Fields the shape does not know are skipped.

Messages and groups may be nested to a depth of one hundred; the depth that is left is the
recursion argument of `skip`.
-/

namespace ChainRecord.Wire

/-- How deep messages and groups may be nested. -/
def maxDepth : Nat := 100

/-- Turns a missing answer into a fault outside any field. -/
def require {α : Type} (cause : Cause) : Option α → Except Fault α
  | some a => .ok a
  | none => .error ⟨cause, []⟩

/-- Fails with a cause outside any field. -/
def refuse {α : Type} (cause : Cause) : Except Fault α :=
  .error ⟨cause, []⟩

/-- Repeats a reader until no more than `stop` bytes are left. A reader that always takes a byte
is repeated at most as often as there are bytes, which the second number bounds. -/
def readUntil {σ : Type} (stop : Nat) (read : σ → Bytes → Except Fault (σ × Bytes)) :
    Nat → σ → Bytes → Except Fault (σ × Bytes)
  | 0, state, bytes => .ok (state, bytes)
  | fuel + 1, state, bytes =>
    if bytes.length ≤ stop then .ok (state, bytes)
    else do
      let (state, rest) ← read state bytes
      readUntil stop read fuel state rest

/-! ### Keys -/

/-- What stands in front of a value. -/
structure Key where
  /-- The number of the field. -/
  number : Nat
  /-- The layout of the value. -/
  wireType : WireType
  deriving DecidableEq, Repr

/-- Reads a key. -/
def readKey (bytes : Bytes) : Except Fault (Key × Bytes) := do
  let (key, rest) ← require .invalidVarint (readVarint bytes)
  if 0x100000000 ≤ key then refuse (.invalidKey key)
  else
    match WireType.ofCode? (key % 8) with
    | none => refuse (.invalidWireType (key % 8))
    | some wireType =>
      if key / 8 = 0 then refuse .invalidFieldNumber else .ok (⟨key / 8, wireType⟩, rest)

/-- Checks the wire type of a known field. -/
def expectWireType (expected actual : WireType) : Except Fault Unit :=
  if actual = expected then .ok () else refuse (.unexpectedWireType actual expected)

/-! ### Skipping -/

/-- Takes a given number of bytes. -/
def readBytes (count : Nat) (bytes : Bytes) : Except Fault (Bytes × Bytes) :=
  if bytes.length < count then refuse .underflow else .ok (bytes.take count, bytes.drop count)

/-- Reads a length and that many bytes. -/
def readSized (bytes : Bytes) : Except Fault (Bytes × Bytes) := do
  let (count, rest) ← require .invalidVarint (readVarint bytes)
  readBytes count rest

/-- Skips the fields of a group up to its end. The number bounds the fields. -/
def skipGroup (skipField : Key → Bytes → Except Fault Bytes) (number : Nat) :
    Nat → Bytes → Except Fault Bytes
  | 0, _ => refuse .invalidVarint
  | fuel + 1, bytes => do
    let (key, rest) ← readKey bytes
    if key.wireType = .endGroup then
      if key.number = number then .ok rest else refuse .unexpectedEndGroup
    else
      let rest ← skipField key rest
      skipGroup skipField number fuel rest

/-- Skips the value behind a key. -/
def skip : Nat → Key → Bytes → Except Fault Bytes
  | 0, _, _ => refuse .recursionLimit
  | depth + 1, key, bytes =>
    match key.wireType with
    | .varint => (require .invalidVarint (readVarint bytes)).map Prod.snd
    | .fixed32 => (readBytes 4 bytes).map Prod.snd
    | .fixed64 => (readBytes 8 bytes).map Prod.snd
    | .lengthDelimited => (readSized bytes).map Prod.snd
    | .startGroup => skipGroup (skip depth) key.number (bytes.length + 1) bytes
    | .endGroup => refuse .unexpectedEndGroup

/-! ### Values -/

/-- Reads a number. -/
def Numeric.read {β : Type} (numeric : Numeric β) (bytes : Bytes) : Except Fault (β × Bytes) := do
  let (n, rest) ← require .invalidVarint (readVarint bytes)
  .ok (numeric.ofWord n, rest)

/-- Reads a number behind those that are there. -/
def Numeric.readNext {β : Type} (numeric : Numeric β) (values : List β) (bytes : Bytes) :
    Except Fault (List β × Bytes) := do
  let (value, rest) ← numeric.read bytes
  .ok (values ++ [value], rest)

/-- Reads a text or bytes. -/
def Textual.read {β : Type} (textual : Textual β) (bytes : Bytes) : Except Fault (β × Bytes) := do
  let (content, rest) ← readSized bytes
  let value ← require .notUtf8 (textual.ofBytes? content)
  .ok (value, rest)

/-- Reads a length and then as many items as it spans, which have to end where it ends. -/
def readSpan {σ : Type} (read : σ → Bytes → Except Fault (σ × Bytes)) (state : σ) (bytes : Bytes) :
    Except Fault (σ × Bytes) := do
  let (count, body) ← require .invalidVarint (readVarint bytes)
  if body.length < count then refuse .underflow
  else
    let stop := body.length - count
    let (state, rest) ← readUntil stop read body.length state body
    if rest.length = stop then .ok (state, rest) else refuse .lengthExceeded

/-- Reads one field of a message: its key, and its value by `readField`. -/
def readKeyed {σ : Type} (readField : Key → σ → Bytes → Except Fault (σ × Bytes)) (state : σ)
    (bytes : Bytes) : Except Fault (σ × Bytes) := do
  let (key, rest) ← readKey bytes
  readField key state rest

/-- Reads a length and the fields it spans into a message. -/
def readMessage {α : Type} (readField : Nat → Key → α → Bytes → Except Fault (α × Bytes)) :
    Nat → WireType → α → Bytes → Except Fault (α × Bytes)
  | depth, wireType, message, bytes => do
    expectWireType .lengthDelimited wireType
    match depth with
    | 0 => refuse .recursionLimit
    | depth + 1 => readSpan (readKeyed (readField depth)) message bytes

mutual

/-- Reads a value behind its key into the value of its field. -/
def Kind.readField {β : Type} : Kind β → Nat → WireType → β → Bytes → Except Fault (β × Bytes)
  | .number numeric, _, wireType, _, bytes => do
    expectWireType .varint wireType
    numeric.read bytes
  | .text textual, _, wireType, _, bytes => do
    expectWireType .lengthDelimited wireType
    textual.read bytes
  | .numbers numeric, _, wireType, values, bytes =>
    if wireType = .lengthDelimited then readSpan numeric.readNext values bytes
    else do
      expectWireType .varint wireType
      numeric.readNext values bytes
  | .texts textual, _, wireType, values, bytes => do
    expectWireType .lengthDelimited wireType
    let (value, rest) ← textual.read bytes
    .ok (values ++ [value], rest)
  | .message shape, depth, wireType, current, bytes => do
    let (message, rest) ←
      readMessage shape.readField depth wireType (current.getD shape.absent) bytes
    .ok (some message, rest)
  | .messages shape, depth, wireType, values, bytes => do
    let (message, rest) ← readMessage shape.readField depth wireType shape.absent bytes
    .ok (values ++ [message], rest)

/-- Reads a value into the row of its message, whose name is given. -/
def Fields.readField {ρ : Type} : Fields ρ → String → Nat → Key → ρ → Bytes →
    Except Fault (ρ × Bytes)
  | .nil, _, depth, key, (), bytes => (skip depth key bytes).map fun rest ↦ ((), rest)
  | .cons number name kind fields, owner, depth, key, (value, row), bytes =>
    if key.number = number then
      match kind.readField depth key.wireType value bytes with
      | .ok (value, rest) => .ok ((value, row), rest)
      | .error fault => .error (fault.within ⟨owner, name⟩)
    else
      (fields.readField owner depth key row bytes).map fun (row, rest) ↦ ((value, row), rest)

/-- Reads a value behind its key into a message. -/
def Shape.readField {α : Type} : Shape α → Nat → Key → α → Bytes → Except Fault (α × Bytes)
  | .mk name fields pack unpack _ _, depth, key, message, bytes =>
    (fields.readField name depth key (unpack message) bytes).map fun (row, rest) ↦ (pack row, rest)

end

/-- Reads bytes that are a message from end to end. -/
def Shape.decode {α : Type} (shape : Shape α) (bytes : Bytes) : Except Fault α :=
  (readUntil 0 (readKeyed (shape.readField maxDepth)) bytes.length shape.absent bytes).map Prod.fst

end ChainRecord.Wire
