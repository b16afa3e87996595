import ChainRecord.Schema.Tag
import ChainRecord.Wire.Shape

/-!
# Messages of the blob module

Payments for blobs, and the two wrappers a transaction may come in: one that carries the blobs
themselves, and one that says where they stand in the block.
-/

namespace ChainRecord.Blob

/-- Pays for blobs. Namespaces, sizes, commitments and versions have one entry for each blob. -/
structure MsgPayForBlobs where
  signer : String
  namespaces : List Bytes
  blobSizes : List UInt32
  shareCommitments : List Bytes
  shareVersions : List UInt32

def MsgPayForBlobs.shape : Wire.Shape MsgPayForBlobs :=
  .mk "MsgPayForBlobs"
    (.cons 1 "signer" .string <|
      .cons 2 "namespaces" (.texts .bytes) <|
      .cons 3 "blob_sizes" (.numbers .uint32) <|
      .cons 4 "share_commitments" (.texts .bytes) <|
      .cons 8 "share_versions" (.numbers .uint32) .nil)
    (fun (signer, namespaces, blobSizes, shareCommitments, shareVersions, _) ↦
      ⟨signer, namespaces, blobSizes, shareCommitments, shareVersions⟩)
    (fun m ↦ (m.signer, m.namespaces, m.blobSizes, m.shareCommitments, m.shareVersions, ()))

/-- A blob and its namespace. -/
structure BlobProto where
  namespaceId : Bytes
  data : Bytes
  shareVersion : UInt32
  namespaceVersion : UInt32
  signer : Bytes

def BlobProto.shape : Wire.Shape BlobProto :=
  .mk "BlobProto"
    (.cons 1 "namespace_id" .bytes <|
      .cons 2 "data" .bytes <|
      .cons 3 "share_version" .uint32 <|
      .cons 4 "namespace_version" .uint32 <|
      .cons 5 "signer" .bytes .nil)
    (fun (namespaceId, data, shareVersion, namespaceVersion, signer, _) ↦
      ⟨namespaceId, data, shareVersion, namespaceVersion, signer⟩)
    (fun m ↦ (m.namespaceId, m.data, m.shareVersion, m.namespaceVersion, m.signer, ()))

/-- A transaction together with the blobs it pays for. -/
structure BlobTx where
  tx : Bytes
  blobs : List BlobProto
  typeId : String

def BlobTx.shape : Wire.Shape BlobTx :=
  .mk "BlobTx"
    (.cons 1 "tx" .bytes <|
      .cons 2 "blobs" (.messages BlobProto.shape) <|
      .cons 3 "type_id" .string .nil)
    (fun (tx, blobs, typeId, _) ↦ ⟨tx, blobs, typeId⟩)
    (fun m ↦ (m.tx, m.blobs, m.typeId, ()))

/-- A transaction together with the places of its blobs. -/
structure IndexWrapper where
  tx : Bytes
  shareIndexes : List UInt32
  typeId : String

def IndexWrapper.shape : Wire.Shape IndexWrapper :=
  .mk "IndexWrapper"
    (.cons 1 "tx" .bytes <|
      .cons 2 "share_indexes" (.numbers .uint32) <|
      .cons 3 "type_id" .string .nil)
    (fun (tx, shareIndexes, typeId, _) ↦ ⟨tx, shareIndexes, typeId⟩)
    (fun m ↦ (m.tx, m.shareIndexes, m.typeId, ()))

/-! ### The kinds of messages -/

inductive Kind where
  | payForBlobs
  deriving DecidableEq

namespace Kind

def all : List Kind :=
  [.payForBlobs]

@[reducible] def Body : Kind → Type
  | .payForBlobs => MsgPayForBlobs

def typeUrl : Kind → String
  | .payForBlobs => "/celestia.blob.v1.MsgPayForBlobs"

def tag : Kind → Tag
  | .payForBlobs => .payForBlobs

def shape : (kind : Kind) → Wire.Shape kind.Body
  | .payForBlobs => MsgPayForBlobs.shape

def signers : (kind : Kind) → kind.Body → List String
  | .payForBlobs, m => [m.signer]

end Kind

end ChainRecord.Blob
