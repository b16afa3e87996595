/-!
# Byte strings and their hexadecimal form

A byte string is a list of bytes: everything that is read from or written to a wire is consumed
from the front and produced by concatenation, which lists say directly.

The hexadecimal form has two lower case digits per byte. `Hex.decode?` accepts exactly what
`Hex.encode` writes, so each byte string has one written form.
-/

namespace ChainRecord

/-- A string of bytes, read from the front. -/
abbrev Bytes := List UInt8

namespace Hex

/-- The lower case digit of a number below sixteen. -/
def digit (n : Nat) : Char :=
  Char.ofNat (if n < 10 then 48 + n else 87 + n)

/-- The number of a lower case digit. -/
def value? (c : Char) : Option Nat :=
  if '0' ≤ c ∧ c ≤ '9' then some (c.toNat - 48)
  else if 'a' ≤ c ∧ c ≤ 'f' then some (c.toNat - 87)
  else none

/-- Two digits per byte, the high half first. -/
def digits (bytes : Bytes) : List Char :=
  bytes.flatMap fun byte ↦ [digit (byte.toNat / 16), digit (byte.toNat % 16)]

/-- The written form of a byte string. -/
def encode (bytes : Bytes) : String :=
  String.ofList (digits bytes)

/-- Reads pairs of digits. A digit without a partner is refused. -/
def ofDigits? : List Char → Option Bytes
  | [] => some []
  | [_] => none
  | high :: low :: rest =>
    match value? high, value? low, ofDigits? rest with
    | some h, some l, some bytes => some (UInt8.ofNat (16 * h + l) :: bytes)
    | _, _, _ => none

/-- Reads a written form back. -/
def decode? (text : String) : Option Bytes :=
  ofDigits? text.toList

end Hex

end ChainRecord
