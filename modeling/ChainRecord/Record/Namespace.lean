import ChainRecord.Block
import ChainRecord.Bytes

/-!
# Records of blob namespaces

The bytes of a namespace are a version and an identifier; any bytes but none can be split that way.
Reserved are the namespaces the chain keeps for itself: those up to `00 … 00 ff` and those from
`ff … ff 00` on, among the bytes that are a namespace by the rules of their version.
-/

namespace ChainRecord.Record

/-- A namespace that a message pays for, with what the message adds to its counters. -/
structure Namespace where
  version : UInt8
  namespaceId : Bytes
  size : UInt64
  pfbCount : UInt64
  blobsCount : UInt64
  reserved : Bool
  lastHeight : UInt64
  lastMessageTime : Time

namespace Namespace

/-- The number of bytes of a namespace. -/
def length : Nat := 29

/-- Whether bytes are a namespace by the rules of their version: in version 0 the identifier begins
with eighteen zeros, in version 255 with twenty-seven bytes of ones. -/
def isWellFormed (version : UInt8) (identifier : Bytes) : Bool :=
  identifier.length + 1 = length &&
    ((version = 0 && (identifier.take 18).all (· = 0)) ||
      (version = 255 && (identifier.take 27).all (· = 255)))

/-- The greatest reserved namespace of the low end. -/
def maxPrimaryReserved : Bytes := List.replicate 28 0 ++ [255]

/-- The least reserved namespace of the high end. -/
def minSecondaryReserved : Bytes := List.replicate 28 255 ++ [0]

/-- Whether the first byte string stands before the second one, or is the same. -/
def isAtMost : Bytes → Bytes → Bool
  | [], _ => true
  | _ :: _, [] => false
  | a :: as, b :: bs => a < b || (a = b && isAtMost as bs)

/-- Whether the chain keeps a namespace for itself. -/
def isReserved (version : UInt8) (identifier : Bytes) : Bool :=
  isWellFormed version identifier &&
    (isAtMost (version :: identifier) maxPrimaryReserved ||
      isAtMost minSecondaryReserved (version :: identifier))

/-- The record of a namespace with a blob of the given size. There is none for no bytes. -/
def ofBytes? (block : Block) (size : UInt64) : Bytes → Option Namespace
  | [] => none
  | version :: identifier =>
    some
      { version
        namespaceId := identifier
        size
        pfbCount := 1
        blobsCount := 1
        reserved := isReserved version identifier
        lastHeight := block.height
        lastMessageTime := block.time }

/-- The version and the identifier, in hexadecimal form. -/
def hash (record : Namespace) : String :=
  Hex.encode (record.version :: record.namespaceId)

end Namespace

end ChainRecord.Record
