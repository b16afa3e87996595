import ChainRecord.Bytes

/-!
# Base 64

Three bytes are written as four symbols of six bits each. A last group of one or two bytes is
padded to four places with `=`.

Reading is strict, so that each byte string has one accepted form: the padding is required,
nothing may follow it, no symbol outside the alphabet is skipped, and the bits of the last symbol
that belong to no byte are zero.
-/

namespace ChainRecord.Base64

/-- The symbol of a number below sixty-four. -/
def symbol (n : Nat) : Char :=
  if n < 26 then Char.ofNat (65 + n)
  else if n < 52 then Char.ofNat (71 + n)
  else if n < 62 then Char.ofNat (n - 4)
  else if n = 62 then '+'
  else '/'

/-- The number of a symbol. -/
def value? (c : Char) : Option Nat :=
  if 'A' ≤ c ∧ c ≤ 'Z' then some (c.toNat - 65)
  else if 'a' ≤ c ∧ c ≤ 'z' then some (c.toNat - 71)
  else if '0' ≤ c ∧ c ≤ '9' then some (c.toNat + 4)
  else if c = '+' then some 62
  else if c = '/' then some 63
  else none

/-- Symbols of a byte string, group by group. -/
def symbols : Bytes → List Char
  | [] => []
  | [a] => [symbol (a.toNat / 4), symbol (a.toNat % 4 * 16), '=', '=']
  | [a, b] =>
    [symbol (a.toNat / 4), symbol (a.toNat % 4 * 16 + b.toNat / 16), symbol (b.toNat % 16 * 4), '=']
  | a :: b :: c :: rest =>
    symbol (a.toNat / 4) :: symbol (a.toNat % 4 * 16 + b.toNat / 16) ::
      symbol (b.toNat % 16 * 4 + c.toNat / 64) :: symbol (c.toNat % 64) :: symbols rest

/-- The written form of a byte string. -/
def encode (bytes : Bytes) : String :=
  String.ofList (symbols bytes)

/-- Reads a padded last group. The bits below the last whole byte have to be zero. -/
def ofLastGroup? (p q r : Char) : Option Bytes :=
  if r = '=' then
    match value? p, value? q with
    | some x, some y => if y % 16 = 0 then some [UInt8.ofNat (4 * x + y / 16)] else none
    | _, _ => none
  else
    match value? p, value? q, value? r with
    | some x, some y, some z =>
      if z % 4 = 0 then some [UInt8.ofNat (4 * x + y / 16), UInt8.ofNat (y % 16 * 16 + z / 4)]
      else none
    | _, _, _ => none

/-- Reads groups of four symbols; only the last group may be padded. -/
def ofSymbols? : List Char → Option Bytes
  | [] => some []
  | [p, q, r, '='] => ofLastGroup? p q r
  | p :: q :: r :: s :: rest =>
    match value? p, value? q, value? r, value? s, ofSymbols? rest with
    | some x, some y, some z, some w, some bytes =>
      some (UInt8.ofNat (4 * x + y / 16) :: UInt8.ofNat (y % 16 * 16 + z / 4) ::
        UInt8.ofNat (z % 4 * 64 + w) :: bytes)
    | _, _, _, _, _ => none
  | _ => none

/-- Reads a written form back. -/
def decode? (text : String) : Option Bytes :=
  ofSymbols? text.toList

end ChainRecord.Base64
