import ChainRecord.Bytes

/-!
# Symbols of five bits

The data part of an address is written with thirty-two symbols, which stand for five bits each.
Bytes become symbols by way of their bits, most significant first, with zeros filling the last
symbol. In the other direction the bits left over behind the last whole byte are dropped, whatever
they are.
-/

namespace ChainRecord.Address

/-- Five bits. -/
abbrev Symbol := BitVec 5

/-- The characters of the symbols, in the order of their values. -/
def alphabet : List Char := "qpzry9x8gf2tvdw0s3jn54khce6mua7l".toList

/-- The character of a symbol. -/
def symbolChar (s : Symbol) : Char :=
  alphabet.getD s.toNat 'q'

/-- The symbol of a character, which may have either case. -/
def charSymbol? (c : Char) : Option Symbol :=
  (alphabet.findIdx? (· = c.toLower)).map (BitVec.ofNat 5)

/-- The bits of a byte, most significant first. -/
def byteBits (b : UInt8) : List Bool :=
  [b.toBitVec.getLsbD 7, b.toBitVec.getLsbD 6, b.toBitVec.getLsbD 5, b.toBitVec.getLsbD 4,
    b.toBitVec.getLsbD 3, b.toBitVec.getLsbD 2, b.toBitVec.getLsbD 1, b.toBitVec.getLsbD 0]

/-- The bits of a symbol, most significant first. -/
def symbolBits (s : Symbol) : List Bool :=
  [s.getLsbD 4, s.getLsbD 3, s.getLsbD 2, s.getLsbD 1, s.getLsbD 0]

/-- Bits in groups of five, the last one filled with zeros. -/
def symbolsOfBits : List Bool → List Symbol
  | [] => []
  | [a] => [BitVec.ofBoolListBE [a, false, false, false, false]]
  | [a, b] => [BitVec.ofBoolListBE [a, b, false, false, false]]
  | [a, b, c] => [BitVec.ofBoolListBE [a, b, c, false, false]]
  | [a, b, c, d] => [BitVec.ofBoolListBE [a, b, c, d, false]]
  | a :: b :: c :: d :: e :: rest => BitVec.ofBoolListBE [a, b, c, d, e] :: symbolsOfBits rest

/-- Bits in groups of eight; an incomplete last group is dropped. -/
def bytesOfBits : List Bool → Bytes
  | a :: b :: c :: d :: e :: f :: g :: h :: rest =>
    UInt8.ofBitVec (BitVec.ofBoolListBE [a, b, c, d, e, f, g, h]) :: bytesOfBits rest
  | _ => []

/-- The symbols of a byte string. -/
def symbolsOfBytes (bytes : Bytes) : List Symbol :=
  symbolsOfBits (bytes.flatMap byteBits)

/-- The byte string of symbols. -/
def bytesOfSymbols (symbols : List Symbol) : Bytes :=
  bytesOfBits (symbols.flatMap symbolBits)

end ChainRecord.Address
