import ChainRecord.Proofs.PlainTransaction
import ChainRecord.Proofs.Wire.Remainder
import ChainRecord.Reading.Transaction

/-!
# Wrapped transactions

A transaction in a wrapper is the transaction in it (`unwrap_wrap`), for any bytes in place of a
transaction and any blobs or places of blobs.

A wrapper is tried as one with blobs first, and both wrappers have a second field behind one key, so
what is written of the one is also read as the other. That attempt can fail or succeed, but it never
gives another type: whatever the second field is read as, it takes the bytes that were written of
it and changes nothing else, and the type is read from what stands behind it
(`typeId_of_decode`).
-/

namespace ChainRecord.Transaction

open Wire

/-! ### Wrappers -/

/-- What a wrapper holds besides a transaction and a type. -/
inductive Wrapper where
  /-- The blobs themselves. -/
  | blobs (items : List Blob.BlobProto)
  /-- The places that the blobs have in the block. -/
  | indexes (places : List UInt32)

namespace Wrapper

/-- The type that a wrapper is known by. -/
def typeId : Wrapper → String
  | .blobs _ => blobTypeId
  | .indexes _ => indexTypeId

/-- Wraps bytes and states a type, in canonical form. -/
def wrap (tx : Bytes) (typeId : String) : Wrapper → Bytes
  | .blobs items => Blob.BlobTx.shape.encode ⟨tx, items, typeId⟩
  | .indexes places => Blob.IndexWrapper.shape.encode ⟨tx, places, typeId⟩

/-- What is written behind the keys of the second field. -/
def contents : Wrapper → List Bytes
  | .blobs items => items.map Blob.BlobProto.shape.encode
  | .indexes places => if places.isEmpty then [] else [Numeric.uint32.writeAll places]

/-- Both wrappers are written as a transaction, contents behind keys of the number two, and a
type. -/
theorem wrap_eq (w : Wrapper) (tx : Bytes) (typeId : String) :
    w.wrap tx typeId =
      Kind.bytes.write 1 tx ++
        ((w.contents.flatMap fun c ↦ writeKey 2 .lengthDelimited ++ writeSized c) ++
          Kind.string.write 3 typeId) := by
  cases w with
  | blobs items =>
    show _ ++ (_ ++ (_ ++ [])) = _
    rw [List.append_nil, contents, List.flatMap_map]
    rfl
  | indexes places =>
    show _ ++ (_ ++ (_ ++ [])) = _
    rw [List.append_nil, contents]
    cases places with
    | nil => rfl
    | cons place places => rw [List.isEmpty_cons, if_neg (by decide), List.flatMap_singleton]; rfl

end Wrapper

/-! ### Reading one wrapper as another -/

section Reading

variable {α β : Type} (owner name : String) (kind : Kind β)
  {pack : Bytes × β × String × Unit → α} {unpack : α → Bytes × β × String × Unit}
  (pack_unpack : ∀ a, pack (unpack a) = a) (unpack_pack : ∀ r, unpack (pack r) = r)

/-- A content behind a key of the number two is read into the second field, and nothing but its own
bytes is. -/
theorem wrapper_readField_second_eq_ok {content rest left : Bytes} (hsize : content.length < 2 ^ 64)
    {tx : Bytes} {value : β} {typeId : String} {final : Bytes × β × String × Unit}
    (h : (wrapperFields name kind).readField owner maxDepth ⟨2, .lengthDelimited⟩
      (tx, value, typeId, ()) (writeSized content ++ rest) = .ok (final, left)) :
    (∃ found, final = (tx, found, typeId, ())) ∧ left = rest := by
  rcases Fields.readField_cons_eq_ok h with ⟨hfirst, -⟩ | ⟨-, row, rfl, hrow⟩
  · exact absurd hfirst (by decide)
  rcases Fields.readField_cons_eq_ok hrow with ⟨-, found, rfl, hfound⟩ | ⟨hsecond, -⟩
  · exact ⟨⟨found, rfl⟩, kind.rest_eq_of_readField hsize hfound⟩
  · exact absurd rfl hsecond

/-- Behind the transaction and some of the contents, the type is read from what stands behind the
other contents. -/
theorem typeId_of_readUntil (tx : Bytes) (typeId : String) (contents : List Bytes)
    {value : β} {fuel : Nat} {bytes left : Bytes} {final : α}
    (hbytes : bytes = (contents.flatMap fun c ↦ writeKey 2 .lengthDelimited ++ writeSized c) ++
      Kind.string.write 3 typeId) (hsize : bytes.length < 2 ^ 64) (hfuel : bytes.length ≤ fuel)
    (h : readUntil 0 (readKeyed ((Shape.mk owner (wrapperFields name kind) pack unpack pack_unpack
      unpack_pack).readField maxDepth)) fuel (pack (tx, value, "", ())) bytes =
        .ok (final, left)) : (unpack final).2.2.1 = typeId := by
  induction contents generalizing value fuel bytes with
  | nil =>
    rw [List.flatMap_nil, List.nil_append] at hbytes
    subst hbytes
    have htext : FieldRun (fun key ↦ Kind.string.readField maxDepth key.wireType) (· = 3) ""
        (Kind.string.write 3 typeId) typeId := Kind.fieldRun_text rfl maxDepth .string typeId hsize
    have hrow : FieldRun ((wrapperFields name kind).readField owner maxDepth)
        (· ∈ (wrapperFields name kind).numbers) (tx, value, "", ()) (Kind.string.write 3 typeId)
        (tx, value, typeId, ()) :=
      Fields.fieldRun_tail (by simp [Fields.numbers])
        (Fields.fieldRun_tail (by simp [Fields.numbers]) (Fields.fieldRun_head htext ()) value) tx
    have hrun := (Shape.fieldRun_pack pack_unpack unpack_pack hrow).run
    obtain ⟨fuel', -, hloop⟩ := readUntil_run_append hrun (Nat.le_refl [].length) hfuel
    rw [List.append_nil, readUntil_of_length_le (Nat.le_refl _)] at hloop
    obtain ⟨rfl, -⟩ := Prod.mk.inj (Except.ok.inj (hloop.symm.trans h))
    rw [unpack_pack]
  | cons c contents ih =>
    rw [List.flatMap_cons, List.append_assoc, List.append_assoc] at hbytes
    subst hbytes
    have hcontent := length_le_writeSized c
    simp only [List.length_append] at hsize hfuel
    have hpos : 0 < (writeKey 2 .lengthDelimited).length :=
      List.length_pos_iff.2 (writeKey_ne_nil 2 .lengthDelimited)
    obtain ⟨fuel, rfl⟩ : ∃ k, fuel = k + 1 := ⟨fuel - 1, by omega⟩
    rw [readUntil_succ (by rw [List.length_append]; omega), readKeyed_writeKey _ rfl,
      Shape.readField_pack] at h
    obtain ⟨⟨middle, behind⟩, hround, hloop⟩ := bind_eq_ok_iff.1 h
    obtain ⟨⟨row, behind⟩, hrow, hmiddle⟩ := map_eq_ok_iff.1 hround
    obtain ⟨rfl, rfl⟩ := Prod.mk.inj hmiddle
    obtain ⟨⟨found, rfl⟩, rfl⟩ := wrapper_readField_second_eq_ok owner name kind (by omega) hrow
    refine ih rfl ?_ ?_ hloop
    · rw [List.length_append]
      omega
    · rw [List.length_append]
      omega

/-- A wrapper that is read as another one states the same type. -/
theorem typeId_of_decode {tx : Bytes} {typeId : String} {contents : List Bytes} {final : α}
    (hsize : (Kind.bytes.write 1 tx ++
      ((contents.flatMap fun c ↦ writeKey 2 .lengthDelimited ++ writeSized c) ++
        Kind.string.write 3 typeId)).length < 2 ^ 64)
    (h : (Shape.mk owner (wrapperFields name kind) pack unpack pack_unpack unpack_pack).decode
      (Kind.bytes.write 1 tx ++
        ((contents.flatMap fun c ↦ writeKey 2 .lengthDelimited ++ writeSized c) ++
          Kind.string.write 3 typeId)) = .ok final) : (unpack final).2.2.1 = typeId := by
  rw [List.length_append] at hsize
  have htx : (Kind.bytes.write 1 tx).length < 2 ^ 64 := by omega
  have hfirst : FieldRun (fun key ↦ Kind.bytes.readField maxDepth key.wireType) (· = 1) []
      (Kind.bytes.write 1 tx) tx := Kind.fieldRun_text rfl maxDepth .bytes tx htx
  have hrow : FieldRun ((wrapperFields name kind).readField owner maxDepth)
      (· ∈ (wrapperFields name kind).numbers) (wrapperFields name kind).absent
      (Kind.bytes.write 1 tx) (tx, kind.absent, "", ()) := Fields.fieldRun_head hfirst _
  have hrun := (Shape.fieldRun_pack pack_unpack unpack_pack hrow).run
  obtain ⟨⟨found, left⟩, hloop, rfl⟩ := map_eq_ok_iff.1 h
  -- the loop gets to the contents with enough rounds left for all of them
  rw [List.length_append] at hloop
  obtain ⟨fuel, hfuel, heq⟩ := readUntil_run_append hrun (Nat.zero_le _) (Nat.le_add_right _ _)
  exact typeId_of_readUntil owner name kind pack_unpack unpack_pack tx typeId contents rfl
    (by omega) (by omega) (heq.symm.trans hloop)

end Reading

/-! ### Unwrapping -/

section Unwrapping

variable {w : Wrapper} {tx : Bytes} {typeId : String} (hsize : (w.wrap tx typeId).length < 2 ^ 64)
include hsize

/-- Only the type of a transaction with its blobs makes a wrapper one. -/
theorem ofBlobTx?_wrap_of_ne (htype : typeId ≠ blobTypeId) :
    ofBlobTx? (w.wrap tx typeId) = none := by
  refine Option.eq_none_iff_forall_ne_some.2 fun found hfound ↦ ?_
  obtain ⟨wrapper, hdecode, hblob, -⟩ := ofBlobTx?_eq_some_iff.1 hfound
  rw [w.wrap_eq] at hsize hdecode
  have hsame := typeId_of_decode "BlobTx" "blobs" (.messages Blob.BlobProto.shape) (fun _ ↦ rfl)
    (fun _ ↦ rfl) hsize hdecode
  exact htype (hsame.symm.trans hblob)

/-- Only the type of a transaction with the places of its blobs makes a wrapper one. -/
theorem ofIndexWrapper?_wrap_of_ne (htype : typeId ≠ indexTypeId) :
    ofIndexWrapper? (w.wrap tx typeId) = none := by
  refine Option.eq_none_iff_forall_ne_some.2 fun found hfound ↦ ?_
  obtain ⟨wrapper, hdecode, hindex, -⟩ := ofIndexWrapper?_eq_some_iff.1 hfound
  rw [w.wrap_eq] at hsize hdecode
  have hsame := typeId_of_decode "IndexWrapper" "share_indexes" (.numbers .uint32) (fun _ ↦ rfl)
    (fun _ ↦ rfl) hsize hdecode
  exact htype (hsame.symm.trans hindex)

/-- A wrapper that states another type is left as it is. -/
theorem unwrap_wrap_of_ne (hblob : typeId ≠ blobTypeId) (hindex : typeId ≠ indexTypeId) :
    unwrap (w.wrap tx typeId) = w.wrap tx typeId := by
  rw [unwrap, ofBlobTx?_wrap_of_ne hsize hblob, ofIndexWrapper?_wrap_of_ne hsize hindex]
  rfl

end Unwrapping

/-- What a wrapper states its own type of is unwrapped. -/
theorem unwrap_wrap_typeId {w : Wrapper} {tx : Bytes}
    (hsize : (w.wrap tx w.typeId).length < 2 ^ 64) : unwrap (w.wrap tx w.typeId) = tx := by
  cases w with
  | blobs items =>
    have hblob : ofBlobTx? ((Wrapper.blobs items).wrap tx blobTypeId) = some tx :=
      ofBlobTx?_eq_some_iff.2
        ⟨_, Blob.BlobTx.shape.decode_encode (by decide) _ hsize, rfl, rfl⟩
    rw [Wrapper.typeId, unwrap, hblob]
  | indexes places =>
    have hindex : ofIndexWrapper? ((Wrapper.indexes places).wrap tx indexTypeId) = some tx :=
      ofIndexWrapper?_eq_some_iff.2
        ⟨_, Blob.IndexWrapper.shape.decode_encode (by decide) _ hsize, rfl, rfl⟩
    have hblob : ofBlobTx? ((Wrapper.indexes places).wrap tx indexTypeId) = none :=
      ofBlobTx?_wrap_of_ne hsize (by decide : indexTypeId ≠ blobTypeId)
    rw [Wrapper.typeId, unwrap, hblob, hindex]
    rfl

/-- What bytes are read as depends on what they are unwrapped to alone. -/
theorem readEnvelope_congr {raw raw' : Bytes} (h : unwrap raw = unwrap raw') :
    readEnvelope raw = readEnvelope raw' := by
  unfold readEnvelope Envelope.ofBytes
  rw [h]

/-- So it is whatever the settings and the form of addresses are. -/
theorem ofBytes_congr {raw raw' : Bytes} (h : unwrap raw = unwrap raw') (settings : Settings)
    (addressCodec : AddressCodec) :
    ofBytes { settings, addressCodec } raw = ofBytes { settings, addressCodec } raw' :=
  congrArg (· >>= ofEnvelope { settings, addressCodec }) (readEnvelope_congr h)

/-- **Wrapping is transparent.** What is in a wrapper that states its own type is unwrapped as it
was, and if it is left as it is by itself, the wrapper is read as it is read by itself: as the same
transaction, or refused for the same reason. A wrapper that states another type is left as it is. -/
theorem unwrap_wrap (w : Wrapper) (tx : Bytes) (typeId : String)
    (hsize : (w.wrap tx typeId).length < 2 ^ 64) :
    (typeId = w.typeId →
      unwrap (w.wrap tx typeId) = tx ∧
        (unwrap tx = tx → ∀ settings addressCodec,
          ofBytes { settings, addressCodec } (w.wrap tx typeId) =
            ofBytes { settings, addressCodec } tx)) ∧
    (typeId ≠ blobTypeId → typeId ≠ indexTypeId →
      unwrap (w.wrap tx typeId) = w.wrap tx typeId) := by
  refine ⟨?_, unwrap_wrap_of_ne hsize⟩
  rintro rfl
  have hunwrap := unwrap_wrap_typeId hsize
  exact ⟨hunwrap, fun htx ↦ ofBytes_congr (hunwrap.trans htx.symm)⟩

/-- Bytes that are no transaction are unwrapped to themselves, and a wrapper that states no type is
left as it is. -/
theorem unwrap_wrap_malformed :
    unwrap ((Wrapper.indexes [4, 300]).wrap [255] indexTypeId) = [255] ∧
      ofBytes {} ((Wrapper.indexes [4, 300]).wrap [255] indexTypeId) = ofBytes {} [255] ∧
      unwrap ((Wrapper.indexes [4, 300]).wrap [255] "") =
        (Wrapper.indexes [4, 300]).wrap [255] "" := by
  obtain ⟨hunwrap, hread⟩ := (unwrap_wrap (.indexes [4, 300]) [255] indexTypeId
    (by decide +kernel)).1 rfl
  exact ⟨hunwrap, hread (by decide +kernel) {} .bech32,
    (unwrap_wrap (.indexes [4, 300]) [255] "" (by decide +kernel)).2 (by decide) (by decide)⟩

end ChainRecord.Transaction
