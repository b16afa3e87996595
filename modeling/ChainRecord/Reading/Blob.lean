import ChainRecord.Reading.Scope

/-!
# Reading messages of the blob and blobstream modules

Every namespace is paired with the blob size at its place. A size that is missing is an
inconsistency and never zero; sizes without a namespace do not count.
-/

namespace ChainRecord.Blob

open Reading

/-- Pairs namespaces with blob sizes. The number is the index of the first namespace and `count`
that of all sizes, for the report of what is missing. -/
def pairNamespaces (block : Block) (count : Nat) :
    Nat → List Bytes → List UInt32 → Except Inconsistency (List Record.Namespace)
  | _, [], _ => .ok []
  | index, _ :: _, [] => .error (.blobSizesMismatch index count)
  | index, bytes :: namespaces, size :: sizes =>
    match Record.Namespace.ofBytes? block size.toUInt64 bytes with
    | none => .error (.emptyNamespace index)
    | some record => (pairNamespaces block count (index + 1) namespaces sizes).map (record :: ·)

/-- Reads a message. -/
def read (scope : Scope) : (kind : Kind) → kind.Body → Except Inconsistency Findings
  | .payForBlobs, m => do
    let namespaces ←
      pairNamespaces scope.block m.blobSizes.length 0 m.namespaces m.blobSizes
    .ok
      { addresses := scope.addresses [(.signer, m.signer)]
        blobsSize := (namespaces.map (·.size)).foldl (· + ·) 0
        entities := { namespaces } }

end ChainRecord.Blob

namespace ChainRecord.Blobstream

open Reading

/-- Reads a message. -/
def read (scope : Scope) : (kind : Kind) → kind.Body → Findings
  | .registerEvmAddress, m => scope.only [(.validator, m.validatorAddress)]

end ChainRecord.Blobstream
