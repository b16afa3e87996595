import ChainRecord.Record.Message
import ChainRecord.Schema.Transaction

/-!
# Records of transactions
-/

namespace ChainRecord.Record

/-- The record of a transaction. -/
structure Transaction where
  timeoutHeight : UInt64
  memo : String
  authInfo : Transaction.AuthInfo
  messages : List ChainRecord.Message
  /-- What is paid, in the native denomination. -/
  fee : Decimal
  gasWanted : UInt64
  /-- The accounts that sign, in order, with their bytes. -/
  signers : List (String × Bytes)

/-- The record of a transaction of a block. -/
structure BlockTransaction where
  /-- The place of the transaction in its block, counted from zero. -/
  index : Nat
  transaction : Transaction
  /-- The records of its messages, in order. -/
  messages : List Message

/-- The bytes of the blobs that a transaction pays for. -/
def BlockTransaction.blobsSize (t : BlockTransaction) : UInt64 :=
  (t.messages.map (·.blobsSize)).foldl (· + ·) 0

end ChainRecord.Record
