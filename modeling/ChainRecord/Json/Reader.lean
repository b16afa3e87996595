import ChainRecord.Bytes
import ChainRecord.Decimal.Numeral
import ChainRecord.Json

/-!
# Reading JSON text

Strict JSON. Blanks are the space, the tab and the two line ends; control characters inside
strings and escapes that name half of a surrogate pair are refused, and so are numbers beyond the
range of doubles. At most 127 arrays and objects may be open at once.

Each reader takes the characters that are left and returns what it read with the rest. Nesting is
bounded by recursion on the number of containers that may still be opened; the loops over items
and members are bounded by the number of characters, since each round takes at least one.
-/

namespace ChainRecord.Json

/-- How many containers may be open at once. -/
def maxOpen : Nat := 127

/-- Whether a character may stand between tokens. -/
def isJsonBlank (c : Char) : Bool :=
  c = ' ' || c = '\t' || c = '\n' || c = '\r'

/-- Drops blanks. -/
def skipBlanks (cs : List Char) : List Char :=
  cs.dropWhile isJsonBlank

/-! ### Strings -/

/-- The value of a hexadecimal digit of either case. -/
def hexDigit? (c : Char) : Option Nat :=
  if '0' ≤ c ∧ c ≤ '9' then some (c.toNat - 48)
  else if 'a' ≤ c ∧ c ≤ 'f' then some (c.toNat - 87)
  else if 'A' ≤ c ∧ c ≤ 'F' then some (c.toNat - 55)
  else none

/-- The value of four hexadecimal digits. -/
def hexUnit? (a b c d : Char) : Option Nat := do
  some (4096 * (← hexDigit? a) + 256 * (← hexDigit? b) + 16 * (← hexDigit? c) + (← hexDigit? d))

/-- The character of a simple escape. -/
def simpleEscape? (c : Char) : Option Char :=
  if c = '"' ∨ c = '\\' ∨ c = '/' then some c
  else if c = 'b' then some '\x08'
  else if c = 'f' then some '\x0c'
  else if c = 'n' then some '\n'
  else if c = 'r' then some '\r'
  else if c = 't' then some '\t'
  else none

/-- Reads the rest of a string, whose opening quote has been read. -/
def readStringChars : List Char → Option (List Char × List Char)
  | [] => none
  | '"' :: rest => some ([], rest)
  | '\\' :: 'u' :: a :: b :: c :: d :: rest =>
    match hexUnit? a b c d with
    | none => none
    | some unit =>
      if unit < 0xd800 ∨ 0xdfff < unit then
        (readStringChars rest).map fun (cs, after) ↦ (Char.ofNat unit :: cs, after)
      else if 0xdbff < unit then none
      else
        match rest with
        | '\\' :: 'u' :: e :: f :: g :: h :: rest =>
          match hexUnit? e f g h with
          | none => none
          | some low =>
            if 0xdc00 ≤ low ∧ low ≤ 0xdfff then
              (readStringChars rest).map fun (cs, after) ↦
                (Char.ofNat (0x10000 + 0x400 * (unit - 0xd800) + (low - 0xdc00)) :: cs, after)
            else none
        | _ => none
  | '\\' :: c :: rest =>
    match simpleEscape? c with
    | none => none
    | some e => (readStringChars rest).map fun (cs, after) ↦ (e :: cs, after)
  | c :: rest =>
    if c.toNat < 32 ∨ c = '\\' then none
    else (readStringChars rest).map fun (cs, after) ↦ (c :: cs, after)

/-- Reads the rest of a string. -/
def readString (cs : List Char) : Option (String × List Char) :=
  (readStringChars cs).map fun (chars, rest) ↦ (String.ofList chars, rest)

/-! ### Numbers -/

/-- The parts of a number text. -/
structure NumberText where
  /-- Whether a minus sign leads. -/
  negative : Bool
  /-- Digits before the point. -/
  whole : List Char
  /-- Digits behind the point. -/
  fraction : List Char
  /-- The exponent, where one is written. -/
  exponent : Option Int

/-- Reads the digits behind a point, if there is a point. -/
def readFractionDigits : List Char → Option (List Char × List Char)
  | '.' :: cs =>
    let (digits, rest) := cs.span Char.isDigit
    if digits.isEmpty then none else some (digits, rest)
  | cs => some ([], cs)

/-- Reads an exponent, if there is one. -/
def readExponent : List Char → Option (Option Int × List Char)
  | [] => some (none, [])
  | c :: cs =>
    if c = 'e' ∨ c = 'E' then
      let (negative, cs) := Numeral.splitSign cs
      let (digits, rest) := cs.span Char.isDigit
      if digits.isEmpty then none
      else some (some (Numeral.signed negative (Numeral.digitsValue digits)), rest)
    else some (none, c :: cs)

/-- Reads the text of a number. The digits before the point have no leading zero. -/
def readNumberText (cs : List Char) : Option (NumberText × List Char) := do
  let (negative, cs) := match cs with
    | '-' :: cs => (true, cs)
    | cs => (false, cs)
  let (whole, cs) := cs.span Char.isDigit
  if whole.isEmpty ∨ (whole.head? = some '0' ∧ 1 < whole.length) then none
  else
    let (fraction, cs) ← readFractionDigits cs
    let (exponent, cs) ← readExponent cs
    some (⟨negative, whole, fraction, exponent⟩, cs)

/-- Appends digits to a significand as long as it stays within 64 bits, and counts them. The digits
from the first one that does not fit are dropped. -/
def absorbDigits : Nat → List Char → Nat × Nat
  | significand, [] => (significand, 0)
  | significand, c :: cs =>
    let extended := 10 * significand + (c.toNat - 48)
    if extended < 0x10000000000000000 then
      let (final, count) := absorbDigits extended cs
      (final, count + 1)
    else (significand, 0)

/-- The value of a number text. Without a fraction and an exponent it is an integer if it has one
of 64 bits, unsigned when not negative and signed when negative; a negative zero is a double. -/
def NumberText.value? (t : NumberText) : Option Number :=
  let (start, wholeCount) := absorbDigits 0 t.whole
  if t.fraction.isEmpty ∧ t.exponent = none ∧ wholeCount = t.whole.length ∧
      (t.negative = false ∨ (0 < start ∧ start ≤ 0x8000000000000000)) then
    some (.int (Numeral.signed t.negative start))
  else
    let (significand, fractionCount) := absorbDigits start t.fraction
    let exponent : Int := (t.whole.length - wholeCount : Nat) - fractionCount + t.exponent.getD 0
    (Binary64.ofParts? significand exponent).map (Number.double t.negative)

/-- Reads a number. -/
def readNumber (cs : List Char) : Option (Number × List Char) := do
  let (t, rest) ← readNumberText cs
  some (← t.value?, rest)

/-! ### Values -/

/-- Reads items, the first of which is due, up to the closing bracket. -/
def readItems (read : List Char → Option (Json × List Char)) :
    Nat → List Char → Option (List Json × List Char)
  | 0, _ => none
  | fuel + 1, cs => do
    let (item, cs) ← read cs
    match skipBlanks cs with
    | ']' :: rest => some ([item], rest)
    | ',' :: rest =>
      let (items, rest) ← readItems read fuel rest
      some (item :: items, rest)
    | _ => none

/-- Reads the key of a member and the colon behind it. -/
def readKey (cs : List Char) : Option (String × List Char) :=
  match skipBlanks cs with
  | '"' :: cs => do
    let (key, cs) ← readString cs
    match skipBlanks cs with
    | ':' :: rest => some (key, rest)
    | _ => none
  | _ => none

/-- Reads members, the first of which is due, up to the closing brace. -/
def readMembers (read : List Char → Option (Json × List Char)) :
    Nat → List Char → Option (Members × List Char)
  | 0, _ => none
  | fuel + 1, cs => do
    let (key, cs) ← readKey cs
    let (value, cs) ← read cs
    match skipBlanks cs with
    | '\x7d' :: rest => some ([(key, value)], rest)
    | ',' :: rest =>
      let (members, rest) ← readMembers read fuel rest
      some ((key, value) :: members, rest)
    | _ => none

/-- Reads the items of an array behind its opening bracket. -/
def readArrayRest (read : List Char → Option (Json × List Char)) (cs : List Char) :
    Option (List Json × List Char) :=
  match skipBlanks cs with
  | ']' :: rest => some ([], rest)
  | cs => readItems read cs.length cs

/-- Reads the members of an object behind its opening brace. -/
def readObjectRest (read : List Char → Option (Json × List Char)) (cs : List Char) :
    Option (Members × List Char) :=
  match skipBlanks cs with
  | '\x7d' :: rest => some ([], rest)
  | cs => readMembers read cs.length cs

/-- Reads a literal name. -/
def readName (name : String) (value : Json) (cs : List Char) : Option (Json × List Char) :=
  if name.toList.isPrefixOf cs then some (value, cs.drop name.length) else none

/-- Reads a value that is neither an array nor an object. -/
def readScalar (cs : List Char) : Option (Json × List Char) :=
  match cs with
  | '"' :: rest => (readString rest).map fun (s, rest) ↦ (.string s, rest)
  | 'n' :: _ => readName "null" .null cs
  | 't' :: _ => readName "true" (.bool true) cs
  | 'f' :: _ => readName "false" (.bool false) cs
  | _ => (readNumber cs).map fun (n, rest) ↦ (.number n, rest)

/-- Reads a value, opening at most `depth` containers inside each other. -/
def readValue : Nat → List Char → Option (Json × List Char)
  | 0, cs => readScalar (skipBlanks cs)
  | depth + 1, cs =>
    match skipBlanks cs with
    | '[' :: rest =>
      (readArrayRest (readValue depth) rest).map fun (items, rest) ↦ (.array items, rest)
    | '\x7b' :: rest =>
      (readObjectRest (readValue depth) rest).map fun (members, rest) ↦ (.object members, rest)
    | cs => readScalar cs

/-- Reads a text that holds one value and nothing else. -/
def ofText? (text : String) : Option Json := do
  let (value, rest) ← readValue maxOpen text.toList
  if (skipBlanks rest).isEmpty then some value else none

/-- The members of a text that holds an object. -/
def membersOfText? (text : String) : Option Members :=
  match ofText? text with
  | some (.object members) => some members
  | _ => none

/-- The members of an object in encoded form. -/
def membersOfBytes? (bytes : Bytes) : Option Members :=
  (String.fromUTF8? ⟨bytes.toArray⟩).bind membersOfText?

end ChainRecord.Json
