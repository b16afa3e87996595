import ChainRecord.Schema.Transaction
import ChainRecord.Transaction.Unwrap

/-!
# Envelopes

What a transaction holds before its messages are unwrapped. Both of its parts, the body and the
information that authorizes it, have to be there; signatures are not looked at.
-/

namespace ChainRecord.Transaction

/-- A transaction whose messages are still wrapped. -/
structure Envelope where
  messages : List Any
  /-- The memo, if the form of envelope has one. -/
  memo : Option String
  /-- The height after which the transaction is void, if the form of envelope has one. -/
  timeoutHeight : Option UInt64
  authInfo : AuthInfo

/-- Why bytes are no envelope. -/
inductive EnvelopeError where
  /-- They are no transaction on the wire. -/
  | malformed (fault : Wire.Fault)
  /-- The body is missing. -/
  | bodyMissing
  /-- The information that authorizes the transaction is missing. -/
  | authInfoMissing
  deriving DecidableEq, Repr

/-- The text of an error. -/
def EnvelopeError.message : EnvelopeError → String
  | .malformed fault => "invalid transaction envelope: " ++ fault.message
  | .bodyMissing => "transaction body is missing"
  | .authInfoMissing => "transaction auth info is missing"

namespace Envelope

/-- The envelope of a transaction on the wire. -/
def ofTx (tx : Tx) : Except EnvelopeError Envelope :=
  match tx.body, tx.authInfo with
  | none, _ => .error .bodyMissing
  | some _, none => .error .authInfoMissing
  | some body, some authInfo =>
    .ok
      { messages := body.messages
        memo := some body.memo
        timeoutHeight := some body.timeoutHeight
        authInfo }

/-- Reads the envelope of a transaction that may be wrapped. -/
def ofBytes (raw : Bytes) : Except EnvelopeError Envelope :=
  match Tx.shape.decode (unwrap raw) with
  | .ok tx => ofTx tx
  | .error fault => .error (.malformed fault)

end Envelope

end ChainRecord.Transaction
