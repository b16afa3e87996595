import ChainRecord.Reading.Message
import ChainRecord.Record.Transaction
import ChainRecord.Transaction.Signers

/-!
# Reading transactions

A transaction is read as a whole or not at all, and the error is that of the first step that fails:
the envelope, its messages in order, the fee. Only then are the records of the messages made, again
in order. A message of an unknown type makes no step fail.
-/

namespace ChainRecord

/-- Why a transaction of a block has no record. -/
inductive BlockError where
  /-- It is no transaction. -/
  | transaction (index : Nat) (e : TransactionError)
  /-- One of its messages makes no sense. -/
  | inconsistent (index : Nat) (e : MessageError)
  deriving DecidableEq, Repr

/-- The text of an error. -/
def BlockError.message : BlockError → String
  | .transaction index e => "transaction " ++ toString index ++ ": " ++ e.message
  | .inconsistent index e => "transaction " ++ toString index ++ ": " ++ e.message

namespace Transaction

/-- Unwraps the message at a position. -/
def unwrapMessage (position : Nat) (any : Any) : Except TransactionError Message :=
  (Message.ofAny any).mapError (.malformedMessage position any.typeUrl)

/-- Unwraps messages, the first of which is at the given position. -/
def unwrapMessages : Nat → List Any → Except TransactionError (List Message)
  | _, [] => .ok []
  | position, any :: anys => do
    let message ← unwrapMessage position any
    let messages ← unwrapMessages (position + 1) anys
    .ok (message :: messages)

/-- The coins of the fee that an authorization states. -/
def feeCoins (authInfo : AuthInfo) : List Coin :=
  (authInfo.fee.map (·.amount)).getD []

/-- The gas that the fee buys. -/
def gasWanted (authInfo : AuthInfo) : UInt64 :=
  (authInfo.fee.map (·.gasLimit)).getD 0

/-- The record of the transaction in an envelope. What its form has no place for is empty or
zero. -/
def ofEnvelope (d : Decoder) (envelope : Envelope) :
    Except TransactionError Record.Transaction := do
  let messages ← unwrapMessages 0 envelope.messages
  let fee ← (feeAmount d.settings (feeCoins envelope.authInfo)).mapError .fee
  .ok
    { timeoutHeight := envelope.timeoutHeight.getD 0
      memo := envelope.memo.getD ""
      authInfo := envelope.authInfo
      messages
      fee
      gasWanted := gasWanted envelope.authInfo
      signers := signersOf d (messages.flatMap Message.signers) }

/-- Reads a transaction. -/
def ofBytes (d : Decoder) (raw : Bytes) : Except TransactionError Record.Transaction := do
  let envelope ← d.readEnvelope raw
  ofEnvelope d envelope

end Transaction

namespace Record

/-- The records of messages, the first of which is at the given position. -/
def messagesFrom (d : Decoder) (block : Block) (status : Status) :
    Nat → List ChainRecord.Message → Except MessageError (List Message)
  | _, [] => .ok []
  | position, message :: messages => do
    let record ← message.record d block position status
    let records ← messagesFrom d block status (position + 1) messages
    .ok (record :: records)

/-- Reads a transaction of a block with all of its messages. -/
def BlockTransaction.ofBytes (d : Decoder) (block : Block) (index : Nat) (raw : Bytes)
    (status : Status) : Except BlockError BlockTransaction := do
  let transaction ←
    (ChainRecord.Transaction.ofBytes d raw).mapError (.transaction index)
  let messages ←
    (messagesFrom d block status 0 transaction.messages).mapError (.inconsistent index)
  .ok { index, transaction, messages }

end Record

end ChainRecord
