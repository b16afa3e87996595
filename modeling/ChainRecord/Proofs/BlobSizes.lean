import ChainRecord.Proofs.AllOrNothing
import ChainRecord.Proofs.SideData
import ChainRecord.Proofs.Stamp
import Mathlib.Algebra.BigOperators.Ring.List
import Mathlib.Algebra.Group.Action.Defs
import Mathlib.Algebra.Order.BigOperators.Group.List

/-!
# Blob sizes

A payment for blobs names a namespace and a size for each of them, in two lists that may differ in
length. Every namespace is paired with the size at its own place, or the payment is refused for the
first namespace that has no size or no bytes (`recordIn_payForBlobs_eq_error_iff`). Sizes behind the
last namespace do not count.

Sizes are summed up in words of sixty-four bits, for one payment and then for the payments of a
transaction. Each size has thirty-two bits, so the sum is exact as long as there are fewer than
`2 ^ 32` namespaces (`MsgPayForBlobs.paidBytes_le`, `Message.sum_paidBytes_lt`), and then the total
of a transaction is that of its payments. Other messages count nothing, not even those that wrap a
payment: what is counted is found by the reader of the outermost message alone.
-/

namespace ChainRecord

open Reading

/-! ### Sums of words -/

/-- A sum of words is exact where it is a word. -/
theorem toNat_foldl_add {sizes : List UInt64} {total : UInt64}
    (h : total.toNat + (sizes.map (·.toNat)).sum < 2 ^ 64) :
    (sizes.foldl (· + ·) total).toNat = total.toNat + (sizes.map (·.toNat)).sum := by
  induction sizes generalizing total with
  | nil => simp
  | cons size sizes ih =>
    rw [List.map_cons, List.sum_cons] at h ⊢
    have hstep : (total + size).toNat = total.toNat + size.toNat := by
      rw [UInt64.toNat_add]
      omega
    rw [List.foldl_cons, ih (by omega), hstep, Nat.add_assoc]

theorem toNat_foldl_add_zero {sizes : List UInt64} (h : (sizes.map (·.toNat)).sum < 2 ^ 64) :
    (sizes.foldl (· + ·) 0).toNat = (sizes.map (·.toNat)).sum := by
  have hzero : (0 : UInt64).toNat = 0 := rfl
  rw [toNat_foldl_add (by omega), hzero, Nat.zero_add]

/-- A record keeps the bytes and the size it is made of. -/
theorem Record.Namespace.eq_of_ofBytes? {block : Block} {size : UInt64} {bytes : Bytes}
    {record : Namespace} (h : ofBytes? block size bytes = some record) :
    record.version :: record.namespaceId = bytes ∧ record.size = size := by
  cases bytes with
  | nil => exact absurd h (by simp [ofBytes?])
  | cons version identifier =>
    obtain rfl := Option.some.inj h
    exact ⟨rfl, rfl⟩

namespace Blob

/-! ### Pairs -/

/-- Pairs the namespace at an index with its size. -/
def pairNamespace (block : Block) (sizes : List UInt32) (index : Nat) (bytes : Bytes) :
    Except Inconsistency Record.Namespace :=
  match sizes[index]? with
  | none => .error (.blobSizesMismatch index sizes.length)
  | some size =>
    match Record.Namespace.ofBytes? block size.toUInt64 bytes with
    | none => .error (.emptyNamespace index)
    | some record => .ok record

/-- Namespaces are paired by their indices. -/
theorem pairNamespaces_eq_readFrom (block : Block) (sizes : List UInt32) (index : Nat)
    (namespaces : List Bytes) :
    pairNamespaces block sizes.length index namespaces (sizes.drop index) =
      readFrom (pairNamespace block sizes) index namespaces := by
  induction namespaces generalizing index with
  | nil => cases sizes.drop index <;> rfl
  | cons bytes namespaces ih =>
    rw [readFrom, pairNamespace, ← ih]
    by_cases hindex : index < sizes.length
    · rw [List.drop_eq_getElem_cons hindex, List.getElem?_eq_getElem hindex, pairNamespaces]
      dsimp only
      cases Record.Namespace.ofBytes? block sizes[index].toUInt64 bytes with
      | none => rfl
      | some record => rfl
    · rw [List.drop_eq_nil_of_le (by omega), List.getElem?_eq_none (by omega)]
      rfl

theorem pairNamespace_eq_ok_iff {block : Block} {sizes : List UInt32} {index : Nat}
    {bytes : Bytes} {record : Record.Namespace} :
    pairNamespace block sizes index bytes = .ok record ↔
      ∃ size, sizes[index]? = some size ∧
        Record.Namespace.ofBytes? block size.toUInt64 bytes = some record := by
  rw [pairNamespace]
  cases sizes[index]? with
  | none => simp
  | some size => cases h : Record.Namespace.ofBytes? block size.toUInt64 bytes <;> simp [h]

/-- That a size is missing is noticed before the bytes are looked at. -/
theorem pairNamespace_eq_error_iff {block : Block} {sizes : List UInt32} {index : Nat}
    {bytes : Bytes} {e : Inconsistency} :
    pairNamespace block sizes index bytes = .error e ↔
      (sizes.length ≤ index ∧ .blobSizesMismatch index sizes.length = e) ∨
        (index < sizes.length ∧ bytes = [] ∧ .emptyNamespace index = e) := by
  rw [pairNamespace]
  by_cases hindex : index < sizes.length
  · rw [List.getElem?_eq_getElem hindex]
    cases bytes <;> simp [Record.Namespace.ofBytes?, hindex, Nat.not_le_of_lt hindex]
  · rw [List.getElem?_eq_none (by omega)]
    simp [hindex, Nat.le_of_not_lt hindex]

theorem fails_pairNamespace_iff {block : Block} {sizes : List UInt32} {index : Nat}
    {bytes : Bytes} :
    Fails (pairNamespace block sizes index bytes) ↔ sizes.length ≤ index ∨ bytes = [] := by
  simp only [Fails, pairNamespace_eq_error_iff, exists_or, exists_and_left, exists_eq', and_true]
  constructor
  · rintro (h | ⟨-, h⟩)
    · exact Or.inl h
    · exact Or.inr h
  · intro h
    rcases Nat.lt_or_ge index sizes.length with hindex | hindex
    · exact Or.inr ⟨hindex, h.resolve_left (Nat.not_le_of_lt hindex)⟩
    · exact Or.inl hindex

namespace MsgPayForBlobs

variable {block : Block} {m : MsgPayForBlobs}

/-- What is wrong with the namespace at an index: it has no size, or it has one and no bytes. -/
inductive Offends (m : MsgPayForBlobs) (i : Nat) : Inconsistency → Prop
  /-- The size is missing. -/
  | noSize : i < m.namespaces.length → m.blobSizes.length ≤ i →
      Offends m i (.blobSizesMismatch i m.blobSizes.length)
  /-- There is a size, and the bytes are missing. -/
  | noBytes : i < m.blobSizes.length → m.namespaces[i]? = some [] →
      Offends m i (.emptyNamespace i)

theorem offends_iff (block : Block) {i : Nat} {e : Inconsistency} :
    m.Offends i e ↔
      ∃ bytes, m.namespaces[i]? = some bytes ∧
        pairNamespace block m.blobSizes i bytes = .error e := by
  simp only [pairNamespace_eq_error_iff]
  constructor
  · intro h
    cases h with
    | noSize hi hsize => exact ⟨_, List.getElem?_eq_getElem hi, Or.inl ⟨hsize, rfl⟩⟩
    | noBytes hsize hi => exact ⟨[], hi, Or.inr ⟨hsize, rfl, rfl⟩⟩
  · rintro ⟨bytes, hi, ⟨hsize, rfl⟩ | ⟨hsize, rfl, rfl⟩⟩
    · exact .noSize (List.getElem?_eq_some_iff.1 hi).1 hsize
    · exact .noBytes hsize hi

/-- A payment is refused for the first namespace with which something is wrong. -/
theorem readFrom_eq_error_iff_offends (block : Block) {e : Inconsistency} :
    readFrom (pairNamespace block m.blobSizes) 0 m.namespaces = .error e ↔
      ∃ i, m.Offends i e ∧ ∀ j e', j < i → ¬ m.Offends j e' := by
  rw [readFrom_eq_error_iff]
  simp only [offends_iff block, Nat.zero_add]
  constructor
  · rintro ⟨i, bytes, hi, he, hbefore⟩
    refine ⟨i, ⟨bytes, hi, he⟩, ?_⟩
    rintro j e' hj ⟨bytes', hj', he'⟩
    exact hbefore j bytes' hj hj' ⟨e', he'⟩
  · rintro ⟨i, ⟨bytes, hi, he⟩, hbefore⟩
    refine ⟨i, bytes, hi, he, ?_⟩
    rintro j bytes' hj hj' ⟨e', he'⟩
    exact hbefore j e' hj ⟨bytes', hj', he'⟩

/-- A payment is read if no namespace is without a size or without bytes. -/
theorem exists_readFrom_iff (block : Block) :
    (∃ records, readFrom (pairNamespace block m.blobSizes) 0 m.namespaces = .ok records) ↔
      m.namespaces.length ≤ m.blobSizes.length ∧ ∀ bytes ∈ m.namespaces, bytes ≠ [] := by
  rw [← not_fails_iff, fails_readFrom_iff]
  simp only [fails_pairNamespace_iff, Nat.zero_add]
  constructor
  · intro h
    refine ⟨?_, fun bytes hmem hempty ↦ ?_⟩
    · by_contra hshort
      -- the first namespace behind all sizes has none
      have hi : m.blobSizes.length < m.namespaces.length := by omega
      exact h ⟨_, _, List.getElem?_eq_getElem hi, Or.inl le_rfl⟩
    · obtain ⟨i, hi⟩ := List.mem_iff_getElem?.1 hmem
      exact h ⟨i, bytes, hi, Or.inr hempty⟩
  · rintro ⟨hlength, hbytes⟩ ⟨i, bytes, hi, hsize | hempty⟩
    · have hlt := (List.getElem?_eq_some_iff.1 hi).1
      omega
    · exact hbytes bytes (List.mem_of_getElem? hi) hempty

/-- There is a record for each namespace, with its bytes and its size. -/
structure IsPairing (m : MsgPayForBlobs) (records : List Record.Namespace) : Prop where
  length : records.length = m.namespaces.length
  paired : ∀ (i : Nat) (bytes : Bytes) (size : UInt32) (record : Record.Namespace),
    m.namespaces[i]? = some bytes → m.blobSizes[i]? = some size → records[i]? = some record →
    record.version :: record.namespaceId = bytes ∧ record.size = size.toUInt64

theorem isPairing_of_readFrom {records : List Record.Namespace}
    (h : readFrom (pairNamespace block m.blobSizes) 0 m.namespaces = .ok records) :
    m.IsPairing records := by
  obtain ⟨hlength, hitems⟩ := readFrom_eq_ok_iff.1 h
  refine ⟨hlength, fun i bytes size record hbytes hsize hrecord ↦ ?_⟩
  obtain ⟨size', hsize', hread⟩ := pairNamespace_eq_ok_iff.1 (hitems i bytes record hbytes hrecord)
  rw [Nat.zero_add, hsize] at hsize'
  obtain rfl := Option.some.inj hsize'
  exact Record.Namespace.eq_of_ofBytes? hread

/-! ### Sums of one payment -/

/-- The bytes of the blobs that have a namespace, together. -/
def paidBytes (m : MsgPayForBlobs) : Nat :=
  ((m.blobSizes.take m.namespaces.length).map (·.toNat)).sum

/-- A size is less than `2 ^ 32`, and there is one for each namespace at most. -/
theorem paidBytes_le (m : MsgPayForBlobs) :
    m.paidBytes ≤ m.namespaces.length * (2 ^ 32 - 1) := by
  have hsizes : ∀ n ∈ (m.blobSizes.take m.namespaces.length).map (·.toNat), n ≤ 2 ^ 32 - 1 := by
    intro n hn
    obtain ⟨size, -, rfl⟩ := List.mem_map.1 hn
    have hlt := size.toNat_lt
    omega
  have hsum := List.sum_le_card_nsmul _ _ hsizes
  rw [List.length_map, List.length_take, smul_eq_mul] at hsum
  exact hsum.trans (Nat.mul_le_mul_right _ (Nat.min_le_left _ _))

/-- The sizes of the records are those of the first namespaces. -/
theorem IsPairing.map_size {records : List Record.Namespace} (h : m.IsPairing records)
    (hlength : m.namespaces.length ≤ m.blobSizes.length) :
    records.map (·.size.toNat) = (m.blobSizes.take m.namespaces.length).map (·.toNat) := by
  refine List.ext_getElem ?_ fun i hi hi' ↦ ?_
  · simp [h.length, hlength]
  · rw [List.length_map] at hi
    have hspace : i < m.namespaces.length := h.length ▸ hi
    have hsize : i < m.blobSizes.length := by omega
    have hpair := (h.paired i _ _ _ (List.getElem?_eq_getElem hspace)
      (List.getElem?_eq_getElem hsize) (List.getElem?_eq_getElem hi)).2
    simp [hpair]

/-- The sizes of a payment are summed up without a loss. -/
theorem IsPairing.toNat_sum {records : List Record.Namespace} (h : m.IsPairing records)
    (hlength : m.namespaces.length ≤ m.blobSizes.length) (hcount : m.namespaces.length < 2 ^ 32) :
    ((records.map Record.Namespace.size).foldl (· + ·) 0).toNat = m.paidBytes := by
  have hsum : ((records.map Record.Namespace.size).map (·.toNat)).sum = m.paidBytes := by
    rw [List.map_map]
    exact congrArg List.sum (h.map_size hlength)
  have hle := m.paidBytes_le
  rw [toNat_foldl_add_zero (by omega), hsum]

end MsgPayForBlobs

/-! ### Payments -/

/-- What is found in a payment are the records of its namespaces, and the sum of their sizes. -/
theorem read_payForBlobs_eq (scope : Scope) (m : MsgPayForBlobs) :
    read scope .payForBlobs m =
      (readFrom (pairNamespace scope.block m.blobSizes) 0 m.namespaces).map fun records ↦
        { addresses := scope.addresses [(.signer, m.signer)]
          blobsSize := (records.map (·.size)).foldl (· + ·) 0
          entities := { namespaces := records } } := by
  rw [← pairNamespaces_eq_readFrom]
  exact bind_pure_comp _ _

/-- The record of a payment has the size of its blobs and, where the transaction was executed, one
record for each namespace, whose sizes are that size together. -/
structure MsgPayForBlobs.IsRecordedAs (m : MsgPayForBlobs) (status : Status) (r : Record.Message) :
    Prop where
  blobsSize : r.blobsSize.toNat = m.paidBytes
  namespaces : status = .success → m.IsPairing r.entities.namespaces
  sizes : status = .success →
    (r.entities.namespaces.map (·.size.toNat)).sum = r.blobsSize.toNat

end Blob

namespace Message

variable {scope : Scope} {m : Blob.MsgPayForBlobs}

theorem exists_recordIn_payForBlobs_iff :
    (∃ r, (known (.blob .payForBlobs) m).recordIn scope = .ok r) ↔
      m.namespaces.length ≤ m.blobSizes.length ∧ ∀ bytes ∈ m.namespaces, bytes ≠ [] := by
  have hread : (known (.blob .payForBlobs) m).read scope = _ := Blob.read_payForBlobs_eq scope m
  rw [← Blob.MsgPayForBlobs.exists_readFrom_iff scope.block, recordIn_eq, hread]
  simp only [mapError_eq_ok_iff, map_eq_ok_iff]
  constructor
  · rintro ⟨r, found, ⟨records, hrecords, -⟩, -⟩
    exact ⟨records, hrecords⟩
  · rintro ⟨records, hrecords⟩
    exact ⟨_, _, ⟨records, hrecords, rfl⟩, rfl⟩

theorem isRecordedAs_of_recordIn (hcount : m.namespaces.length < 2 ^ 32) {r : Record.Message}
    (h : (known (.blob .payForBlobs) m).recordIn scope = .ok r) :
    m.IsRecordedAs scope.status r := by
  have hlength := (exists_recordIn_payForBlobs_iff.1 ⟨r, h⟩).1
  obtain ⟨found, hfound, rfl⟩ := recordIn_eq_ok_iff.1 h
  obtain ⟨records, hrecords, rfl⟩ :=
    map_eq_ok_iff.1 ((Blob.read_payForBlobs_eq scope m).symm.trans hfound)
  have hpairing := Blob.MsgPayForBlobs.isPairing_of_readFrom hrecords
  have hsum := hpairing.toNat_sum hlength hcount
  refine ⟨hsum, fun hstatus ↦ ?_, fun hstatus ↦ ?_⟩
  · rw [stamp_entities_success hstatus]
    exact hpairing
  · rw [stamp_entities_success hstatus]
    exact (congrArg List.sum (hpairing.map_size hlength)).trans hsum.symm

theorem recordIn_payForBlobs_eq_error_iff {e : MessageError} :
    (known (.blob .payForBlobs) m).recordIn scope = .error e ↔
      e.typeUrl = "/celestia.blob.v1.MsgPayForBlobs" ∧ e.position = scope.position ∧
        ∃ i, m.Offends i e.cause ∧ ∀ j e', j < i → ¬ m.Offends j e' := by
  have hread : (known (.blob .payForBlobs) m).read scope = _ := Blob.read_payForBlobs_eq scope m
  rw [recordIn_eq_error_iff, hread, map_eq_error_iff,
    Blob.MsgPayForBlobs.readFrom_eq_error_iff_offends]
  rfl

/-! ### All messages -/

/-- The bytes of the blobs that a message pays for by itself. -/
def paidBytes : Message → Nat
  | .known (.blob .payForBlobs) m => Blob.MsgPayForBlobs.paidBytes m
  | _ => 0

/-- The number of namespaces that a message pays for by itself. -/
def namespaceCount : Message → Nat
  | .known (.blob .payForBlobs) m => (Blob.MsgPayForBlobs.namespaces m).length
  | _ => 0

theorem eq_payForBlobs_or (message : Message) :
    (∃ m, message = known (.blob .payForBlobs) m) ∨
      (message.kind? ≠ some (.blob .payForBlobs) ∧ message.paidBytes = 0) := by
  cases message with
  | unknown any => exact Or.inr ⟨by simp [kind?], rfl⟩
  | known kind m =>
    cases kind with
    | blob kind =>
      cases kind with
      | payForBlobs => exact Or.inl ⟨m, rfl⟩
    | _ => exact Or.inr ⟨by simp [kind?], rfl⟩

theorem paidBytes_le (message : Message) :
    message.paidBytes ≤ message.namespaceCount * (2 ^ 32 - 1) := by
  rcases message.eq_payForBlobs_or with ⟨m, rfl⟩ | ⟨-, hpaid⟩
  · exact m.paidBytes_le
  · rw [hpaid]
    exact Nat.zero_le _

/-- A record counts the blobs that its message pays for by itself. What is wrapped has no part in
it. -/
theorem toNat_blobsSize_of_recordIn {message : Message}
    (hcount : message.namespaceCount < 2 ^ 32) {r : Record.Message}
    (h : message.recordIn scope = .ok r) : r.blobsSize.toNat = message.paidBytes := by
  rcases message.eq_payForBlobs_or with ⟨m, rfl⟩ | ⟨hkind, hpaid⟩
  · exact (isRecordedAs_of_recordIn hcount h).blobsSize
  · obtain ⟨found, hfound, rfl⟩ := recordIn_eq_ok_iff.1 h
    -- blobs belong to payments only
    have hzero : found.blobsSize = 0 := by
      by_contra hne
      exact hkind ((message.read_belongTo found hfound).blobs (Or.inr hne))
    rw [hpaid]
    exact congrArg UInt64.toNat hzero

end Message

/-! ### Transactions -/

/-- The records of messages count the blobs that the messages pay for. -/
theorem Record.map_blobsSize_of_messagesFrom {d : Decoder} {block : Block} {status : Status}
    {messages : List ChainRecord.Message} {records : List Message}
    (h : messagesFrom d block status 0 messages = .ok records)
    (hcount : (messages.map (·.namespaceCount)).sum < 2 ^ 32) :
    records.map (·.blobsSize.toNat) = messages.map (·.paidBytes) := by
  obtain ⟨hlength, hitems⟩ := messagesFrom_eq_ok_iff.1 h
  refine List.ext_getElem (by simp [hlength]) fun i hi hi' ↦ ?_
  rw [List.length_map] at hi hi'
  have hrecord := hitems i _ _ (List.getElem?_eq_getElem hi') (List.getElem?_eq_getElem hi)
  have hle : messages[i].namespaceCount ≤ (messages.map (·.namespaceCount)).sum :=
    List.le_sum_of_mem (List.mem_map_of_mem (List.getElem_mem hi'))
  rw [List.getElem_map, List.getElem_map]
  exact ChainRecord.Message.toNat_blobsSize_of_recordIn (by omega) hrecord

/-- Fewer than `2 ^ 32` namespaces are paid for with less than `2 ^ 64` bytes. -/
theorem Message.sum_paidBytes_lt {messages : List Message}
    (hcount : (messages.map (·.namespaceCount)).sum < 2 ^ 32) :
    (messages.map (·.paidBytes)).sum < 2 ^ 64 := by
  have hle : (messages.map (·.paidBytes)).sum ≤
      (messages.map (·.namespaceCount)).sum * (2 ^ 32 - 1) := by
    rw [← List.sum_map_mul_right]
    exact List.sum_le_sum fun message _ ↦ message.paidBytes_le
  omega

theorem Record.BlockTransaction.toNat_blobsSize_of_ofBytes {d : Decoder} {block : Block}
    {index : Nat} {raw : Bytes} {status : Status} {t : BlockTransaction}
    (h : ofBytes d block index raw status = .ok t)
    (hcount : (t.transaction.messages.map (·.namespaceCount)).sum < 2 ^ 32) :
    t.blobsSize.toNat = (t.transaction.messages.map (·.paidBytes)).sum := by
  obtain ⟨-, -, hrecords⟩ := ofBytes_eq_ok_iff.1 h
  have hsizes := map_blobsSize_of_messagesFrom hrecords hcount
  have hlt := ChainRecord.Message.sum_paidBytes_lt hcount
  rw [← hsizes] at hlt ⊢
  rw [blobsSize, toNat_foldl_add_zero] <;> rw [List.map_map]
  · rfl
  · exact hlt

/-- **Blob bytes are neither lost nor counted twice.** A payment is recorded exactly if every
namespace has a size and bytes, and then with the exact sum of the sizes of its namespaces, each of
which has a record of its own. Otherwise it is refused for the first namespace that has no size, or
has one and no bytes. The size of a transaction is the exact sum over its payments, whatever other
messages it has and whatever those wrap. -/
theorem Message.blobsSize_exact :
    (∀ (scope : Scope) (m : Blob.MsgPayForBlobs), m.namespaces.length < 2 ^ 32 →
      ((∃ r, (known (.blob .payForBlobs) m).recordIn scope = .ok r) ↔
        m.namespaces.length ≤ m.blobSizes.length ∧ ∀ bytes ∈ m.namespaces, bytes ≠ []) ∧
      (∀ r, (known (.blob .payForBlobs) m).recordIn scope = .ok r →
        m.IsRecordedAs scope.status r) ∧
      ∀ e, (known (.blob .payForBlobs) m).recordIn scope = .error e ↔
        e.typeUrl = "/celestia.blob.v1.MsgPayForBlobs" ∧ e.position = scope.position ∧
          ∃ i, m.Offends i e.cause ∧ ∀ j e', j < i → ¬ m.Offends j e') ∧
    ∀ (d : Decoder) (block : Block) (index : Nat) (raw : Bytes) (status : Status)
      (t : Record.BlockTransaction),
      Record.BlockTransaction.ofBytes d block index raw status = .ok t →
      (t.transaction.messages.map (·.namespaceCount)).sum < 2 ^ 32 →
      t.blobsSize.toNat = (t.transaction.messages.map (·.paidBytes)).sum := by
  refine ⟨fun scope m hcount ↦ ⟨exists_recordIn_payForBlobs_iff, fun r hr ↦ ?_, fun e ↦ ?_⟩, ?_⟩
  · exact isRecordedAs_of_recordIn hcount hr
  · exact recordIn_payForBlobs_eq_error_iff
  · intro d block index raw status t ht hcount
    exact Record.BlockTransaction.toNat_blobsSize_of_ofBytes ht hcount

/-- A payment for two blobs that states the sizes of three. -/
def Blob.paymentOfTwo : MsgPayForBlobs :=
  ⟨"", [[0, 1], [2]], [5, 4294967295, 7], [], []⟩

/-- A payment for two blobs, the second of which has neither a size nor a namespace. -/
def Blob.paymentOfOneAndAHalf : MsgPayForBlobs :=
  ⟨"", [[1], []], [4], [], []⟩

/-- A decoder that finds the first payment behind a message of an unknown type. -/
def Blob.findingPayment : Decoder :=
  Record.BlockTransaction.finding
    [⟨"/strange.Msg", [255]⟩,
      ⟨"/celestia.blob.v1.MsgPayForBlobs", MsgPayForBlobs.shape.encode paymentOfTwo⟩] []

/-- The first payment stands in a transaction behind a message of an unknown type. The second one is
refused for the missing size. -/
theorem Message.blobsSize_exact_paymentOfTwo :
    (∃ r, (known (.blob .payForBlobs) Blob.paymentOfTwo).record {} ⟨7, ⟨0, 0⟩⟩ 0 .success = .ok r ∧
      Blob.paymentOfTwo.IsRecordedAs .success r) ∧
    (known (.blob .payForBlobs) Blob.paymentOfOneAndAHalf).record {} ⟨7, ⟨0, 0⟩⟩ 0 .success =
      .error ⟨"/celestia.blob.v1.MsgPayForBlobs", 0, .blobSizesMismatch 1 1⟩ ∧
    ∃ t, Record.BlockTransaction.ofBytes Blob.findingPayment ⟨7, ⟨0, 0⟩⟩ 3 [] .success = .ok t ∧
      t.blobsSize.toNat = 5 + 4294967295 := by
  obtain ⟨hpayment, htransaction⟩ := blobsSize_exact
  refine ⟨?_, ?_, ?_⟩
  · obtain ⟨hexists, hrecorded, -⟩ := hpayment (outermost {} ⟨7, ⟨0, 0⟩⟩ 0 .success)
      Blob.paymentOfTwo (by decide)
    obtain ⟨r, hr⟩ := hexists.2 (by decide)
    exact ⟨r, hr, hrecorded r hr⟩
  · obtain ⟨-, -, hrefused⟩ := hpayment (outermost {} ⟨7, ⟨0, 0⟩⟩ 0 .success)
      Blob.paymentOfOneAndAHalf (by decide)
    refine (hrefused _).2 ⟨rfl, rfl, 1, .noSize (by decide) (by decide), fun j e' hj ↦ ?_⟩
    obtain rfl : j = 0 := by omega
    intro h
    cases h with
    | noSize _ hsize => exact absurd hsize (by decide)
    | noBytes _ hbytes => exact absurd hbytes (by decide)
  · have hrun : (Record.BlockTransaction.ofBytes Blob.findingPayment ⟨7, ⟨0, 0⟩⟩ 3 []
        .success).map (fun t ↦ ((t.transaction.messages.map (·.namespaceCount)).sum,
          (t.transaction.messages.map (·.paidBytes)).sum)) = .ok (2, 5 + 4294967295) := by
      decide +kernel
    obtain ⟨t, ht, hsums⟩ := map_eq_ok_iff.1 hrun
    obtain ⟨hcount, hpaid⟩ := Prod.mk.inj hsums
    refine ⟨t, ht, ?_⟩
    rw [htransaction _ _ _ _ _ t ht (by omega), hpaid]

end ChainRecord
