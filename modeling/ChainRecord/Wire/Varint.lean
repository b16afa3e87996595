import ChainRecord.Bytes

/-!
# Numbers on the wire

A number is written in groups of seven bits, least significant group first; every byte but the
last has its high bit set. A number of sixty-four bits takes at most ten bytes, and of the tenth
only the lowest bit may be used. Reading does not insist on the shortest form.
-/

namespace ChainRecord.Wire

/-- The shortest form of a number. -/
def writeVarint (n : Nat) : Bytes :=
  if n < 128 then [UInt8.ofNat n]
  else UInt8.ofNat (n % 128 + 128) :: writeVarint (n / 128)
termination_by n

/-- The length of the shortest form. -/
def varintLength (n : Nat) : Nat :=
  if n < 128 then 1 else varintLength (n / 128) + 1
termination_by n

/-- Reads a number of at most `count` bytes, the last of which is below `top` when all of them are
used. -/
def readVarintWithin (top : Nat) : Nat → Bytes → Option (Nat × Bytes)
  | 0, _ => none
  | _, [] => none
  | count + 1, b :: rest =>
    if b.toNat < 128 then
      if count = 0 ∧ top ≤ b.toNat then none else some (b.toNat, rest)
    else (readVarintWithin top count rest).map fun (n, rest) ↦ (b.toNat - 128 + 128 * n, rest)

/-- Reads a number of sixty-four bits. -/
def readVarint (bytes : Bytes) : Option (Nat × Bytes) :=
  readVarintWithin 2 10 bytes

end ChainRecord.Wire
