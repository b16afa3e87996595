import ChainRecord.Wire.Shape

/-!
# Shared parts of messages

Coins, wrapped messages, times and heights, which messages of many modules carry. Amounts are kept
as the texts they are sent as: whether a text is a number is a question for the module that reads
it.
-/

namespace ChainRecord

/-- An amount of a denomination. -/
structure Coin where
  denom : String
  amount : String

def Coin.shape : Wire.Shape Coin :=
  .mk "Coin"
    (.cons 1 "denom" .string <|
      .cons 2 "amount" .string .nil)
    (fun (denom, amount, _) ↦ ⟨denom, amount⟩)
    (fun m ↦ (m.denom, m.amount, ()))

/-- A message in canonical or any other form, with the URL that names its type. -/
structure Any where
  typeUrl : String
  value : Bytes

def Any.shape : Wire.Shape Any :=
  .mk "Any"
    (.cons 1 "type_url" .string <|
      .cons 2 "value" .bytes .nil)
    (fun (typeUrl, value, _) ↦ ⟨typeUrl, value⟩)
    (fun m ↦ (m.typeUrl, m.value, ()))

/-- A point in time, in seconds since the epoch and nanoseconds. -/
structure Timestamp where
  seconds : Int64
  nanos : Int32

def Timestamp.shape : Wire.Shape Timestamp :=
  .mk "Timestamp"
    (.cons 1 "seconds" .int64 <|
      .cons 2 "nanos" .int32 .nil)
    (fun (seconds, nanos, _) ↦ ⟨seconds, nanos⟩)
    (fun m ↦ (m.seconds, m.nanos, ()))

/-- A span of time, in seconds and nanoseconds. -/
structure Duration where
  seconds : Int64
  nanos : Int32

def Duration.shape : Wire.Shape Duration :=
  .mk "Duration"
    (.cons 1 "seconds" .int64 <|
      .cons 2 "nanos" .int32 .nil)
    (fun (seconds, nanos, _) ↦ ⟨seconds, nanos⟩)
    (fun m ↦ (m.seconds, m.nanos, ()))

/-- A height of a counterparty chain, within a revision of that chain. -/
structure Height where
  revisionNumber : UInt64
  revisionHeight : UInt64

def Height.shape : Wire.Shape Height :=
  .mk "Height"
    (.cons 1 "revision_number" .uint64 <|
      .cons 2 "revision_height" .uint64 .nil)
    (fun (revisionNumber, revisionHeight, _) ↦ ⟨revisionNumber, revisionHeight⟩)
    (fun m ↦ (m.revisionNumber, m.revisionHeight, ()))

end ChainRecord
