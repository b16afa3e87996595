import ChainRecord.Address.Symbols

/-!
# Checksum of an address

The six last symbols of an address make the residue of the whole text a known constant. The
residue is that of a polynomial division, computed symbol by symbol on thirty bits: it is linear
with respect to exclusive or, and the six check symbols meet no division of their own, so they can
be read off the residue of the text with zeros in their place.

There are two constants, one for each generation of the format.
-/

namespace ChainRecord.Address

/-- A residue of the division. -/
abbrev Residue := BitVec 30

/-- What the five bits that leave a residue put back into it, the lowest bit first. -/
def feedback : List Residue :=
  [0x3b6a57b2, 0x26508e6d, 0x1ea119fa, 0x3d4233dd, 0x2a1462b3]

/-- The residue after one more symbol: the residue moves up by five bits, the symbol enters below,
and each bit that leaves adds its feedback. -/
def absorb (residue : Residue) (symbol : Symbol) : Residue :=
  let shifted := (residue <<< 5) ^^^ symbol.setWidth 30
  (feedback.zipIdx 25).foldl
    (fun sum (value, bit) ↦ if residue.getLsbD bit then sum ^^^ value else sum) shifted

/-- The residue after a list of symbols. -/
def absorbAll (residue : Residue) (symbols : List Symbol) : Residue :=
  symbols.foldl absorb residue

/-- The symbols that stand for the human readable part: the high bits of its characters, a zero,
and their low bits. -/
def humanPartSymbols (humanPart : List Char) : List Symbol :=
  humanPart.map (fun c ↦ BitVec.ofNat 5 (c.toNat / 32)) ++
    0 :: humanPart.map (fun c ↦ BitVec.ofNat 5 (c.toNat % 32))

/-- The residue of a whole address, given its human readable part in lower case. -/
def residueOf (humanPart : List Char) (data : List Symbol) : Residue :=
  absorbAll 1 (humanPartSymbols humanPart ++ data)

/-- The constant of the first generation, which is also the one that is written. -/
def writtenConstant : Residue := 1

/-- The constant of the second generation. -/
def secondConstant : Residue := 0x2bc830a3

/-- The check symbols to write behind the data. -/
def checkSymbols (humanPart : List Char) (data : List Symbol) : List Symbol :=
  let residue := residueOf humanPart (data ++ List.replicate 6 0) ^^^ writtenConstant
  [5, 4, 3, 2, 1, 0].map fun i ↦ (residue >>> (5 * i)).setWidth 5

/-- Whether data that ends in check symbols is intact. -/
def isIntact (humanPart : List Char) (data : List Symbol) : Bool :=
  let residue := residueOf humanPart data
  residue == writtenConstant || residue == secondConstant

end ChainRecord.Address
