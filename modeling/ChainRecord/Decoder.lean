import ChainRecord.Address.Codec
import ChainRecord.Settings
import ChainRecord.Transaction.Envelope
import ChainRecord.Transaction.FeeAmount

/-!
# Decoders

What the transactions of a chain are read with: its settings, the form of its addresses, and the
form in which transactions come. Both forms can be exchanged. Where there are only settings, they
stand for the decoder with the standard forms.
-/

namespace ChainRecord

/-- Why bytes are no transaction. -/
inductive TransactionError where
  /-- They are no envelope. -/
  | envelope (e : Transaction.EnvelopeError)
  /-- A message of a known type is malformed. -/
  | malformedMessage (position : Nat) (typeUrl : String) (fault : Wire.Fault)
  /-- The fee is none. -/
  | fee (e : Transaction.FeeError)
  deriving DecidableEq, Repr

/-- The text of an error. -/
def TransactionError.message : TransactionError → String
  | .envelope e => e.message
  | .malformedMessage position typeUrl fault =>
    "message " ++ typeUrl ++ " at position " ++ toString position ++ ": " ++ fault.message
  | .fee e => e.message

/-- Reads the envelope of a transaction on the wire. -/
def Transaction.readEnvelope (raw : Bytes) : Except TransactionError Envelope :=
  (Envelope.ofBytes raw).mapError .envelope

/-- What the transactions of a chain are read with. -/
structure Decoder where
  settings : Settings := {}
  /-- The form of addresses. -/
  addressCodec : AddressCodec := .bech32
  /-- What bytes hold before the messages are unwrapped. -/
  readEnvelope : Bytes → Except TransactionError Transaction.Envelope := Transaction.readEnvelope

instance : Coe Settings Decoder where
  coe settings := { settings }

end ChainRecord
