import ChainRecord.Time

/-!
# Blocks

What a message is read in: the height and time of its block, and whether its transaction was
executed.
-/

namespace ChainRecord

/-- The block of a transaction. -/
structure Block where
  height : UInt64
  time : Time

/-- Whether a transaction was executed. -/
inductive Status where
  /-- It was, and its effects stand. -/
  | success
  /-- It was not, and had no effects. -/
  | failed
  deriving DecidableEq

end ChainRecord
