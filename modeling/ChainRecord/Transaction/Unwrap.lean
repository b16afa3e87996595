import ChainRecord.Schema.Blob
import ChainRecord.Wire.Reader

/-!
# Wrapped transactions

A block holds transactions that pay for blobs in a wrapper: together with their blobs, or together
with the places the blobs have in the block. A wrapper is known by the type it states. Bytes that
are no wrapper, or whose wrapper states another type, are a transaction by themselves.
-/

namespace ChainRecord.Transaction

/-- The type that a transaction with its blobs states. -/
def blobTypeId : String := "BLOB"

/-- The type that a transaction with the places of its blobs states. -/
def indexTypeId : String := "INDX"

/-- The transaction that is wrapped with its blobs. -/
def ofBlobTx? (raw : Bytes) : Option Bytes :=
  match Blob.BlobTx.shape.decode raw with
  | .ok wrapper => if wrapper.typeId = blobTypeId then some wrapper.tx else none
  | .error _ => none

/-- The transaction that is wrapped with the places of its blobs. -/
def ofIndexWrapper? (raw : Bytes) : Option Bytes :=
  match Blob.IndexWrapper.shape.decode raw with
  | .ok wrapper => if wrapper.typeId = indexTypeId then some wrapper.tx else none
  | .error _ => none

/-- The transaction inside at most one wrapper. Blobs and their places are dropped. -/
def unwrap (raw : Bytes) : Bytes :=
  match ofBlobTx? raw with
  | some tx => tx
  | none => (ofIndexWrapper? raw).getD raw

end ChainRecord.Transaction
