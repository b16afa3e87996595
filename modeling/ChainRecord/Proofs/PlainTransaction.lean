import ChainRecord.Proofs.Wire.OtherLayout
import ChainRecord.Transaction.Envelope

/-!
# Plain transactions and wrappers

A transaction and both of its wrappers put contents behind keys of the numbers one, two and three
(`layout`), so nothing but the type that a wrapper states tells them apart: the body of a
transaction can always be read as what is wrapped, and where a wrapper has its type a transaction
has its signatures.

What is between these two decides. The information of a transaction is read as a blob unless there
is a tip, and as the places of blobs if it happens to be numbers one behind the other. So a
transaction is taken for a wrapper if it is of such a kind, all of its signatures are texts, and the
last of them is the type of that wrapper (`ReadsAsWrapper`), and in no other case (`unwrap_encode`).

Both wrappers are treated at once: they differ in the kind of their second field only
(`wrapperFields`).
-/

namespace ChainRecord.Transaction

open Wire

/-! ### Contents behind three keys -/

/-- A content behind a key of the number one, a content behind a key of the number two, and contents
behind keys of the number three. -/
def layout (body authInfo : Bytes) (signatures : List Bytes) : Bytes :=
  writeKey 1 .lengthDelimited ++ writeSized body ++
    (writeKey 2 .lengthDelimited ++ writeSized authInfo ++
      signatures.flatMap fun s ↦ writeKey 3 .lengthDelimited ++ writeSized s)

/-- A transaction that has both of its parts is written as their contents and the signatures. -/
theorem encode_eq_layout (body : TxBody) (authInfo : AuthInfo) (signatures : List Bytes) :
    Tx.shape.encode ⟨some body, some authInfo, signatures⟩ =
      layout (TxBody.shape.encode body) (AuthInfo.shape.encode authInfo) signatures := by
  show _ ++ (_ ++ (_ ++ [])) = _
  rw [List.append_nil]
  rfl

theorem length_body_lt (body authInfo : Bytes) (signatures : List Bytes) :
    body.length < (layout body authInfo signatures).length := by
  have hkey := List.length_pos_iff.2 (writeKey_ne_nil 1 .lengthDelimited)
  have hcontent := length_le_writeSized body
  simp only [layout, List.length_append]
  omega

theorem length_authInfo_le (body authInfo : Bytes) (signatures : List Bytes) :
    authInfo.length ≤ (layout body authInfo signatures).length := by
  have hcontent := length_le_writeSized authInfo
  simp only [layout, List.length_append]
  omega

theorem length_signature_lt {body authInfo : Bytes} {signatures : List Bytes} {bound : Nat}
    (hsize : (layout body authInfo signatures).length < bound) :
    ∀ s ∈ signatures, s.length < bound := by
  intro s hs
  have hall : (signatures.flatMap fun s ↦
      writeKey 3 .lengthDelimited ++ writeSized s).length < bound := by
    simp only [layout, List.length_append] at hsize
    omega
  exact length_lt_of_mem hs hall

/-! ### Signatures -/

/-- All signatures are texts, and the last one is a given text. -/
def SignedAs (signatures : List Bytes) (text : String) : Prop :=
  ∃ texts : List String,
    signatures = texts.map Textual.string.toBytes ∧ texts.getLast? = some text

theorem SignedAs.getLast?_eq {signatures : List Bytes} {text : String}
    (h : SignedAs signatures text) :
    signatures.getLast? = some (Textual.string.toBytes text) := by
  obtain ⟨texts, rfl, hlast⟩ := h
  rw [List.getLast?_map, hlast, Option.map_some]

theorem getLastD_eq_iff {texts : List String} {text : String} (htext : text ≠ "") :
    texts.getLastD "" = text ↔ texts.getLast? = some text := by
  rw [List.getLastD_eq_getLast?]
  cases texts.getLast? with
  | none => simp [htext.symm]
  | some last => simp

/-- Signatures are texts up to the first that is none. -/
theorem exists_texts (signatures : List Bytes) :
    (∃ texts : List String, signatures = texts.map Textual.string.toBytes) ∨
      ∃ (texts : List String) (bad : Bytes) (behind : List Bytes),
        signatures = texts.map Textual.string.toBytes ++ bad :: behind ∧
          Textual.string.ofBytes? bad = none := by
  induction signatures with
  | nil => exact Or.inl ⟨[], rfl⟩
  | cons s signatures ih =>
    cases hs : Textual.string.ofBytes? s with
    | none => exact Or.inr ⟨[], s, signatures, rfl, hs⟩
    | some text =>
      rw [← Textual.toBytes_of_ofBytes? hs]
      rcases ih with ⟨texts, rfl⟩ | ⟨texts, bad, behind, rfl, hbad⟩
      · exact Or.inl ⟨text :: texts, rfl⟩
      · exact Or.inr ⟨text :: texts, bad, behind, rfl, hbad⟩

/-! ### Wrappers -/

section Wrappers

variable {α β : Type} (owner name : String) (kind : Kind β)

/-- The fields of a wrapper: a transaction, a value of some kind, and a type. -/
def wrapperFields : Fields (Bytes × β × String × Unit) :=
  .cons 1 "tx" .bytes (.cons 2 name kind (.cons 3 "type_id" .string .nil))

variable {kind} {body authInfo : Bytes} {value : β}

variable (kind) in
/-- The first part of a transaction is read as the transaction in a wrapper. -/
theorem wrapperRun_first (hbody : body.length < 2 ^ 64) :
    FieldRun ((wrapperFields name kind).readField owner maxDepth)
      (· ∈ (wrapperFields name kind).numbers) (wrapperFields name kind).absent
      (writeKey 1 .lengthDelimited ++ writeSized body) (body, kind.absent, "", ()) := by
  have htx : FieldRun (fun key ↦ Kind.bytes.readField maxDepth key.wireType) (· = 1) []
      (writeKey 1 .lengthDelimited ++ writeSized body) body :=
    .single rfl rfl (Textual.bytes.read_writeSized body hbody)
  exact Fields.fieldRun_head htx _

/-- Both parts of a transaction are read into a wrapper if the second one can be. -/
theorem wrapperRun_parts (hbody : body.length < 2 ^ 64)
    (hreads : kind.Reads maxDepth authInfo value) :
    FieldRun ((wrapperFields name kind).readField owner maxDepth)
      (· ∈ (wrapperFields name kind).numbers) (wrapperFields name kind).absent
      (writeKey 1 .lengthDelimited ++ writeSized body ++
        (writeKey 2 .lengthDelimited ++ writeSized authInfo))
      (body, value, "", ()) := by
  have hsecond : FieldRun (fun key ↦ kind.readField maxDepth key.wireType) (· = 2) kind.absent
      (writeKey 2 .lengthDelimited ++ writeSized authInfo) value :=
    .single rfl rfl hreads
  refine (wrapperRun_first owner name kind hbody).append
    (Fields.fieldRun_tail (by simp [Fields.numbers]) ?_ body)
  exact Fields.fieldRun_head hsecond _

/-- Signatures that are texts are read as the type of a wrapper, the last one in the end. -/
theorem wrapperRun_texts (texts : List String)
    (hsize : ∀ s ∈ texts.map Textual.string.toBytes, s.length < 2 ^ 64) (typeId : String) :
    FieldRun ((wrapperFields name kind).readField owner maxDepth)
      (· ∈ (wrapperFields name kind).numbers) (body, value, typeId, ())
      ((texts.map Textual.string.toBytes).flatMap fun s ↦
        writeKey 3 .lengthDelimited ++ writeSized s)
      (body, value, texts.getLastD typeId, ()) := by
  rw [List.flatMap_map]
  refine Fields.fieldRun_tail (by simp [Fields.numbers])
    (Fields.fieldRun_tail (by simp [Fields.numbers]) ?_ value) body
  exact Fields.fieldRun_head (Kind.fieldRun_overwrite rfl maxDepth .string texts
    (fun t ht ↦ hsize _ (List.mem_map_of_mem ht)) typeId) ()

/-- A second part that is rejected cannot be read as a field of a wrapper. -/
theorem wrapper_readField_second (hrejects : kind.Rejects maxDepth authInfo) (tx : Bytes)
    (row : String × Unit) (rest : Bytes) :
    ∃ fault, (wrapperFields name kind).readField owner maxDepth ⟨2, .lengthDelimited⟩
      (tx, kind.absent, row) (writeSized authInfo ++ rest) = .error fault := by
  obtain ⟨fault, hfault⟩ := hrejects rest
  refine ⟨fault.within ⟨owner, name⟩, ?_⟩
  rw [wrapperFields, Fields.readField, if_neg (by decide), Fields.readField, if_pos rfl, hfault]
  rfl

variable (kind value) in
/-- A signature that is no text cannot be read as the type of a wrapper. -/
theorem wrapper_readField_third {signature : Bytes}
    (hsignature : Textual.string.ofBytes? signature = none) (hsize : signature.length < 2 ^ 64)
    (tx : Bytes) (typeId : String) (rest : Bytes) :
    ∃ fault, (wrapperFields name kind).readField owner maxDepth ⟨3, .lengthDelimited⟩
      (tx, value, typeId, ()) (writeSized signature ++ rest) = .error fault := by
  refine ⟨(⟨.notUtf8, []⟩ : Fault).within ⟨owner, "type_id"⟩, ?_⟩
  have hread : Kind.string.readField maxDepth .lengthDelimited typeId
      (writeSized signature ++ rest) = .error ⟨.notUtf8, []⟩ :=
    Textual.rejects_of_ofBytes? hsignature hsize rest
  rw [wrapperFields, Fields.readField, if_neg (by decide), Fields.readField, if_neg (by decide),
    Fields.readField, if_pos rfl, hread]
  rfl

variable {pack : Bytes × β × String × Unit → α} {unpack : α → Bytes × β × String × Unit}
  (pack_unpack : ∀ a, pack (unpack a) = a) (unpack_pack : ∀ r, unpack (pack r) = r)

/-- A transaction whose second part can be read and whose signatures are texts is read as a
wrapper. -/
theorem decode_layout_of_texts (hreads : kind.Reads maxDepth authInfo value) (texts : List String)
    (hsize : (layout body authInfo (texts.map Textual.string.toBytes)).length < 2 ^ 64) :
    (Shape.mk owner (wrapperFields name kind) pack unpack pack_unpack unpack_pack).decode
        (layout body authInfo (texts.map Textual.string.toBytes)) =
      .ok (pack (body, value, texts.getLastD "", ())) := by
  have hbody := Nat.lt_trans (length_body_lt body authInfo _) hsize
  have hrow := (wrapperRun_parts owner name hbody hreads).append
    (wrapperRun_texts owner name texts (length_signature_lt hsize) "")
  have hlayout : layout body authInfo (texts.map Textual.string.toBytes) =
      writeKey 1 .lengthDelimited ++ writeSized body ++
        (writeKey 2 .lengthDelimited ++ writeSized authInfo) ++
        (texts.map Textual.string.toBytes).flatMap fun s ↦
          writeKey 3 .lengthDelimited ++ writeSized s := by
    simp only [layout, List.append_assoc]
  rw [hlayout]
  exact Shape.decode_of_fieldRun (Shape.fieldRun_pack pack_unpack unpack_pack hrow)

/-- A transaction whose second part is rejected is no wrapper. -/
theorem decode_layout_of_rejects (hrejects : kind.Rejects maxDepth authInfo)
    (signatures : List Bytes) (hsize : (layout body authInfo signatures).length < 2 ^ 64) :
    ∃ fault, (Shape.mk owner (wrapperFields name kind) pack unpack pack_unpack unpack_pack).decode
      (layout body authInfo signatures) = .error fault := by
  have hbody := Nat.lt_trans (length_body_lt body authInfo signatures) hsize
  have htx := wrapperRun_first owner name kind hbody
  obtain ⟨fault, hfault⟩ := wrapper_readField_second owner name hrejects body ("", ())
    (signatures.flatMap fun s ↦ writeKey 3 .lengthDelimited ++ writeSized s)
  refine ⟨fault, Shape.decode_error_of_fieldRun
    (Shape.fieldRun_pack pack_unpack unpack_pack htx) ?_ ?_⟩
  · simp [writeKey_ne_nil]
  · rw [List.append_assoc, readKeyed_writeKey _ rfl, Shape.readField_pack, hfault]
    rfl

/-- A transaction with a signature that is no text is no wrapper. -/
theorem decode_layout_of_notUtf8 (hreads : kind.Reads maxDepth authInfo value)
    {texts : List String} {bad : Bytes} {behind : List Bytes}
    (hbad : Textual.string.ofBytes? bad = none)
    (hsize : (layout body authInfo
      (texts.map Textual.string.toBytes ++ bad :: behind)).length < 2 ^ 64) :
    ∃ fault, (Shape.mk owner (wrapperFields name kind) pack unpack pack_unpack unpack_pack).decode
      (layout body authInfo (texts.map Textual.string.toBytes ++ bad :: behind)) =
        .error fault := by
  have hbody := Nat.lt_trans (length_body_lt body authInfo _) hsize
  have hsignature := length_signature_lt hsize
  have hrow := (wrapperRun_parts owner name hbody hreads).append
    (wrapperRun_texts owner name texts
      (fun s hs ↦ hsignature s (List.mem_append_left _ hs)) "")
  obtain ⟨fault, hfault⟩ := wrapper_readField_third owner name kind value hbad
    (hsignature bad (by simp)) body (texts.getLastD "")
    (behind.flatMap fun s ↦ writeKey 3 .lengthDelimited ++ writeSized s)
  have hlayout : layout body authInfo (texts.map Textual.string.toBytes ++ bad :: behind) =
      (writeKey 1 .lengthDelimited ++ writeSized body ++
        (writeKey 2 .lengthDelimited ++ writeSized authInfo) ++
        (texts.map Textual.string.toBytes).flatMap fun s ↦
          writeKey 3 .lengthDelimited ++ writeSized s) ++
      (writeKey 3 .lengthDelimited ++ (writeSized bad ++
        behind.flatMap fun s ↦ writeKey 3 .lengthDelimited ++ writeSized s)) := by
    simp only [layout, List.flatMap_append, List.flatMap_cons, List.append_assoc]
  refine ⟨fault, ?_⟩
  rw [hlayout]
  refine Shape.decode_error_of_fieldRun (Shape.fieldRun_pack pack_unpack unpack_pack hrow) ?_ ?_
  · simp [writeKey_ne_nil]
  · rw [readKeyed_writeKey _ rfl, Shape.readField_pack, hfault]
    rfl

/-- A transaction is read as a wrapper of a type exactly if the condition on its second part holds
and it is signed as that type; what is wrapped is its first part. -/
theorem exists_decode_layout_iff {signatures : List Bytes} {accepted : Prop}
    (hreads : accepted → ∃ value, kind.Reads maxDepth authInfo value)
    (hrejects : ¬ accepted → kind.Rejects maxDepth authInfo)
    (hsize : (layout body authInfo signatures).length < 2 ^ 64) {typeId : String}
    (htypeId : typeId ≠ "") {tx : Bytes} :
    (∃ wrapper, (Shape.mk owner (wrapperFields name kind) pack unpack pack_unpack
        unpack_pack).decode (layout body authInfo signatures) = .ok wrapper ∧
        (unpack wrapper).2.2.1 = typeId ∧ (unpack wrapper).1 = tx) ↔
      (accepted ∧ SignedAs signatures typeId) ∧ body = tx := by
  constructor
  · rintro ⟨wrapper, hdecode, htype, htx⟩
    -- of the three ways a transaction is read, the two that end in a fault give no wrapper
    by_cases haccepted : accepted
    · obtain ⟨value, hvalue⟩ := hreads haccepted
      rcases exists_texts signatures with ⟨texts, rfl⟩ | ⟨texts, bad, behind, rfl, hbad⟩
      · rw [decode_layout_of_texts owner name pack_unpack unpack_pack hvalue texts hsize] at hdecode
        obtain rfl := Except.ok.inj hdecode
        rw [unpack_pack] at htype htx
        exact ⟨⟨haccepted, texts, rfl, (getLastD_eq_iff htypeId).1 htype⟩, htx⟩
      · obtain ⟨fault, hfault⟩ := decode_layout_of_notUtf8 owner name pack_unpack unpack_pack
          hvalue hbad hsize
        rw [hfault] at hdecode
        exact absurd hdecode (by simp)
    · obtain ⟨fault, hfault⟩ := decode_layout_of_rejects owner name pack_unpack unpack_pack
        (hrejects haccepted) signatures hsize
      rw [hfault] at hdecode
      exact absurd hdecode (by simp)
  · rintro ⟨⟨haccepted, texts, rfl, hlast⟩, rfl⟩
    obtain ⟨value, hvalue⟩ := hreads haccepted
    refine ⟨_, decode_layout_of_texts owner name pack_unpack unpack_pack hvalue texts hsize, ?_⟩
    rw [unpack_pack]
    exact ⟨(getLastD_eq_iff htypeId).2 hlast, rfl⟩

end Wrappers

/-! ### The second part of a transaction -/

/-- What is written of signers and a fee. -/
def writeSignersAndFee (signerInfos : List SignerInfo) (fee : Option Fee) : Bytes :=
  (signerInfos.flatMap fun s ↦
    writeKey 1 .lengthDelimited ++ writeSized (SignerInfo.shape.encode s)) ++
      (Kind.message Fee.shape).write 2 fee

/-- A tip is written behind the signers and the fee. -/
theorem encode_authInfo (signerInfos : List SignerInfo) (fee : Option Fee) (tip : Option Tip) :
    AuthInfo.shape.encode ⟨signerInfos, fee, tip⟩ =
      writeSignersAndFee signerInfos fee ++ (Kind.message Tip.shape).write 3 tip := by
  show _ ++ (_ ++ (_ ++ [])) = _
  rw [List.append_nil, writeSignersAndFee, List.append_assoc]
  rfl

/-- Signers are read as one byte string, the last one in the end. -/
theorem signersRun (depth : Nat) (signerInfos : List SignerInfo)
    (hsize : (signerInfos.flatMap fun s ↦
      writeKey 1 .lengthDelimited ++ writeSized (SignerInfo.shape.encode s)).length < 2 ^ 64) :
    FieldRun (fun key ↦ Kind.bytes.readField depth key.wireType) (· = 1) []
      (signerInfos.flatMap fun s ↦
        writeKey 1 .lengthDelimited ++ writeSized (SignerInfo.shape.encode s))
      ((signerInfos.map SignerInfo.shape.encode).getLastD []) := by
  have hcontents : ∀ s ∈ signerInfos.map SignerInfo.shape.encode, s.length < 2 ^ 64 := by
    intro s hs
    obtain ⟨info, hinfo, rfl⟩ := List.mem_map.1 hs
    exact length_lt_of_mem hinfo hsize
  have hrun := Kind.fieldRun_overwrite (rfl : isFieldNumber 1 = true) depth Textual.bytes
    (signerInfos.map SignerInfo.shape.encode) hcontents []
  rwa [List.flatMap_map] at hrun

/-- A fee is read as a byte string. -/
theorem exists_feeRun (depth : Nat) (fee : Option Fee)
    (hsize : ((Kind.message Fee.shape).write 2 fee).length < 2 ^ 64) :
    ∃ data, FieldRun (fun key ↦ Kind.bytes.readField depth key.wireType) (· = 2) []
      ((Kind.message Fee.shape).write 2 fee) data := by
  cases fee with
  | none => exact ⟨[], .nil []⟩
  | some fee =>
    rw [Kind.write] at hsize ⊢
    exact ⟨Fee.shape.encode fee,
      .single rfl rfl (Textual.bytes.read_writeSized _ (length_lt_of_field hsize))⟩

/-- Signers and a fee are read into a row that begins with two byte strings. -/
theorem exists_rowRun {ρ : Type} (owner first second : String) (rest : Fields ρ) (depth : Nat)
    (signerInfos : List SignerInfo) (fee : Option Fee) (hrest : 1 ∉ rest.numbers)
    (hsize : (writeSignersAndFee signerInfos fee).length < 2 ^ 64) :
    ∃ row, FieldRun
      ((Fields.cons 1 first .bytes (.cons 2 second .bytes rest)).readField owner depth)
      (· ∈ (Fields.cons 1 first .bytes (.cons 2 second .bytes rest)).numbers)
      (Fields.cons 1 first .bytes (.cons 2 second .bytes rest)).absent
      (writeSignersAndFee signerInfos fee) row := by
  rw [writeSignersAndFee, List.length_append] at hsize
  have hfirst := signersRun depth signerInfos (by omega)
  obtain ⟨data, hsecond⟩ := exists_feeRun depth fee (by omega)
  have hnumber : 1 ∉ (Fields.cons 2 second .bytes rest).numbers := by
    simp [Fields.numbers, hrest]
  exact ⟨_, (Fields.fieldRun_head hfirst _).append
    (Fields.fieldRun_tail hnumber (Fields.fieldRun_head hsecond rest.absent) _)⟩

/-- Signers and a fee are read as the namespace and the data of a blob. -/
theorem exists_blobRun (depth : Nat) (signerInfos : List SignerInfo) (fee : Option Fee)
    (hsize : (writeSignersAndFee signerInfos fee).length < 2 ^ 64) :
    ∃ blob, FieldRun (Blob.BlobProto.shape.readField depth) (· ∈ Blob.BlobProto.shape.numbers)
      Blob.BlobProto.shape.absent (writeSignersAndFee signerInfos fee) blob := by
  have hrow := exists_rowRun "BlobProto" "namespace_id" "data"
    (.cons 3 "share_version" .uint32 <|
      .cons 4 "namespace_version" .uint32 <|
      .cons 5 "signer" .bytes .nil) depth signerInfos fee (by decide) hsize
  obtain ⟨row, hrow⟩ := hrow
  exact ⟨_, Shape.fieldRun_pack (fun _ ↦ rfl) (fun _ ↦ rfl) hrow⟩

/-- Information without a tip is read as a blob. -/
theorem exists_reads_blobs {authInfo : AuthInfo} (htip : authInfo.tip = none)
    (hsize : (AuthInfo.shape.encode authInfo).length < 2 ^ 64) :
    ∃ blobs, (Kind.messages Blob.BlobProto.shape).Reads maxDepth (AuthInfo.shape.encode authInfo)
      blobs := by
  obtain ⟨signerInfos, fee, tip⟩ := authInfo
  obtain rfl : tip = none := htip
  rw [encode_authInfo, Kind.write, List.append_nil] at hsize ⊢
  obtain ⟨blob, hblob⟩ := exists_blobRun 99 signerInfos fee hsize
  refine ⟨[blob], fun rest ↦ ?_⟩
  rw [Kind.readField, maxDepth, readMessage_writeSized hblob hsize]
  rfl

/-- A tip stands where a blob has a number. -/
theorem blob_readField_tip (depth : Nat) (blob : Blob.BlobProto) (bytes : Bytes) :
    ∃ fault, Blob.BlobProto.shape.readField depth ⟨3, .lengthDelimited⟩ blob bytes =
      .error fault :=
  ⟨_, rfl⟩

/-- Information with a tip is no blob. -/
theorem rejects_blobs {authInfo : AuthInfo} (htip : authInfo.tip ≠ none)
    (hsize : (AuthInfo.shape.encode authInfo).length < 2 ^ 64) :
    (Kind.messages Blob.BlobProto.shape).Rejects maxDepth (AuthInfo.shape.encode authInfo) := by
  obtain ⟨signerInfos, fee, tip⟩ := authInfo
  obtain ⟨tip, rfl⟩ := Option.ne_none_iff_exists'.1 htip
  rw [encode_authInfo, Kind.write] at hsize ⊢
  have hfront : (writeSignersAndFee signerInfos fee).length < 2 ^ 64 := by
    rw [List.length_append] at hsize
    omega
  obtain ⟨blob, hblob⟩ := exists_blobRun 99 signerInfos fee hfront
  intro rest
  obtain ⟨fault, hfault⟩ := blob_readField_tip 99 blob
    (writeSized (Tip.shape.encode tip) ++ rest)
  have hread : readKeyed (Blob.BlobProto.shape.readField 99) blob
      (writeKey 3 .lengthDelimited ++ writeSized (Tip.shape.encode tip) ++ rest) =
        .error fault := by
    rw [List.append_assoc, readKeyed_writeKey _ rfl, hfault]
  have hspan := readSpan_error_of_run hblob.run (by simp [writeKey_ne_nil]) hread hsize
  refine ⟨fault, ?_⟩
  rw [Kind.readField]
  show Except.bind (readSpan _ _ _) _ = _
  rw [hspan]
  rfl

/-! ### Unwrapping -/

/-- A transaction with this information and these signatures can be read as one of the wrappers,
and states the type of that wrapper. -/
def ReadsAsWrapper (authInfo : AuthInfo) (signatures : List Bytes) : Prop :=
  authInfo.tip = none ∧ SignedAs signatures blobTypeId ∨
    AreVarints (AuthInfo.shape.encode authInfo) ∧ SignedAs signatures indexTypeId

theorem ofBlobTx?_eq_some_iff {raw tx : Bytes} :
    ofBlobTx? raw = some tx ↔ ∃ wrapper, Blob.BlobTx.shape.decode raw = .ok wrapper ∧
      wrapper.typeId = blobTypeId ∧ wrapper.tx = tx := by
  rw [ofBlobTx?]
  cases Blob.BlobTx.shape.decode raw with
  | error fault => simp
  | ok wrapper => by_cases h : wrapper.typeId = blobTypeId <;> simp [h]

theorem ofIndexWrapper?_eq_some_iff {raw tx : Bytes} :
    ofIndexWrapper? raw = some tx ↔ ∃ wrapper, Blob.IndexWrapper.shape.decode raw = .ok wrapper ∧
      wrapper.typeId = indexTypeId ∧ wrapper.tx = tx := by
  rw [ofIndexWrapper?]
  cases Blob.IndexWrapper.shape.decode raw with
  | error fault => simp
  | ok wrapper => by_cases h : wrapper.typeId = indexTypeId <;> simp [h]

section Plain

variable {body : TxBody} {authInfo : AuthInfo} {signatures : List Bytes}
  (hsize : (Tx.shape.encode ⟨some body, some authInfo, signatures⟩).length < 2 ^ 64)
include hsize

theorem length_authInfo_lt : (AuthInfo.shape.encode authInfo).length < 2 ^ 64 := by
  rw [encode_eq_layout] at hsize
  exact Nat.lt_of_le_of_lt (length_authInfo_le _ _ _) hsize

/-- A transaction is taken for one with its blobs exactly if it has no tip and is signed so. -/
theorem ofBlobTx?_encode {tx : Bytes} :
    ofBlobTx? (Tx.shape.encode ⟨some body, some authInfo, signatures⟩) = some tx ↔
      (authInfo.tip = none ∧ SignedAs signatures blobTypeId) ∧ TxBody.shape.encode body = tx := by
  have hauthInfo := length_authInfo_lt hsize
  rw [encode_eq_layout] at hsize ⊢
  rw [ofBlobTx?_eq_some_iff]
  exact exists_decode_layout_iff "BlobTx" "blobs" (fun _ ↦ rfl) (fun _ ↦ rfl)
    (fun htip ↦ exists_reads_blobs htip hauthInfo) (fun htip ↦ rejects_blobs htip hauthInfo) hsize
    (by decide)

/-- A transaction is taken for one with the places of its blobs exactly if its second part is
numbers one behind the other and it is signed so. -/
theorem ofIndexWrapper?_encode {tx : Bytes} :
    ofIndexWrapper? (Tx.shape.encode ⟨some body, some authInfo, signatures⟩) = some tx ↔
      (AreVarints (AuthInfo.shape.encode authInfo) ∧ SignedAs signatures indexTypeId) ∧
        TxBody.shape.encode body = tx := by
  have hauthInfo := length_authInfo_lt hsize
  rw [encode_eq_layout] at hsize ⊢
  rw [ofIndexWrapper?_eq_some_iff]
  exact exists_decode_layout_iff "IndexWrapper" "share_indexes" (fun _ ↦ rfl) (fun _ ↦ rfl)
    (fun h ↦ Kind.exists_reads_numbers .uint32 maxDepth h hauthInfo)
    (fun h ↦ Kind.rejects_numbers .uint32 maxDepth h hauthInfo) hsize (by decide)

/-- A transaction that reads as a wrapper is unwrapped to its body. -/
theorem unwrap_of_readsAsWrapper (h : ReadsAsWrapper authInfo signatures) :
    unwrap (Tx.shape.encode ⟨some body, some authInfo, signatures⟩) =
      TxBody.shape.encode body := by
  rw [unwrap]
  rcases h with hblob | hindex
  · rw [(ofBlobTx?_encode hsize).2 ⟨hblob, rfl⟩]
  · cases hblob : ofBlobTx? (Tx.shape.encode ⟨some body, some authInfo, signatures⟩) with
    | none =>
      show (ofIndexWrapper? _).getD _ = _
      rw [(ofIndexWrapper?_encode hsize).2 ⟨hindex, rfl⟩, Option.getD_some]
    | some tx =>
      -- what is wrapped is the body in either case
      exact ((ofBlobTx?_encode hsize).1 hblob).2.symm

/-- A transaction that does not read as a wrapper is left as it is. -/
theorem unwrap_of_not_readsAsWrapper (h : ¬ ReadsAsWrapper authInfo signatures) :
    unwrap (Tx.shape.encode ⟨some body, some authInfo, signatures⟩) =
      Tx.shape.encode ⟨some body, some authInfo, signatures⟩ := by
  have hblob : ofBlobTx? (Tx.shape.encode ⟨some body, some authInfo, signatures⟩) = none := by
    refine Option.eq_none_iff_forall_ne_some.2 (fun tx htx ↦ ?_)
    exact h (Or.inl ((ofBlobTx?_encode hsize).1 htx).1)
  have hindex : ofIndexWrapper? (Tx.shape.encode ⟨some body, some authInfo, signatures⟩) =
      none := by
    refine Option.eq_none_iff_forall_ne_some.2 (fun tx htx ↦ ?_)
    exact h (Or.inr ((ofIndexWrapper?_encode hsize).1 htx).1)
  rw [unwrap, hblob, hindex]
  rfl

/-- The envelope of a transaction that is left as it is holds the parts of that transaction. -/
theorem envelope_of_unwrap_eq
    (h : unwrap (Tx.shape.encode ⟨some body, some authInfo, signatures⟩) =
      Tx.shape.encode ⟨some body, some authInfo, signatures⟩) :
    Envelope.ofBytes (Tx.shape.encode ⟨some body, some authInfo, signatures⟩) =
      .ok
        { messages := body.messages
          memo := some body.memo
          timeoutHeight := some body.timeoutHeight
          authInfo } := by
  rw [Envelope.ofBytes, h, Tx.shape.decode_encode (by decide) _ hsize]
  rfl

end Plain

/-- **Plain transactions.** A transaction with both of its parts, in canonical form, is left as it
is exactly if it does not read as a wrapper, and then its envelope holds its messages, memo, timeout
height and information. Otherwise it is taken for a wrapper of its body. -/
theorem unwrap_encode (body : TxBody) (authInfo : AuthInfo) (signatures : List Bytes)
    (hsize : (Tx.shape.encode ⟨some body, some authInfo, signatures⟩).length < 2 ^ 64) :
    (unwrap (Tx.shape.encode ⟨some body, some authInfo, signatures⟩) =
        Tx.shape.encode ⟨some body, some authInfo, signatures⟩ ↔
      ¬ ReadsAsWrapper authInfo signatures) ∧
    (¬ ReadsAsWrapper authInfo signatures →
      Envelope.ofBytes (Tx.shape.encode ⟨some body, some authInfo, signatures⟩) =
        .ok
          { messages := body.messages
            memo := some body.memo
            timeoutHeight := some body.timeoutHeight
            authInfo }) ∧
    (ReadsAsWrapper authInfo signatures →
      unwrap (Tx.shape.encode ⟨some body, some authInfo, signatures⟩) =
        TxBody.shape.encode body) := by
  refine ⟨⟨fun h hwrapper ↦ ?_, unwrap_of_not_readsAsWrapper hsize⟩, fun h ↦ ?_,
    unwrap_of_readsAsWrapper hsize⟩
  · -- the body is a proper part of the transaction, so they are not the same bytes
    rw [unwrap_of_readsAsWrapper hsize hwrapper, encode_eq_layout] at h
    have hlength := length_body_lt (TxBody.shape.encode body) (AuthInfo.shape.encode authInfo)
      signatures
    rw [← h] at hlength
    exact absurd hlength (Nat.lt_irrefl _)
  · exact envelope_of_unwrap_eq hsize (unwrap_of_not_readsAsWrapper hsize h)

/-- A body with one message. -/
def sendBody : TxBody where
  messages := [⟨"/cosmos.bank.v1beta1.MsgSend", []⟩]
  memo := ""
  timeoutHeight := 0
  extensionOptions := []
  nonCriticalExtensionOptions := []

/-- Information with a fee and without a tip. -/
def feeOnly : AuthInfo where
  signerInfos := []
  fee := some ⟨[], 100000, "", ""⟩
  tip := none

/-- A signature that is no text keeps a transaction from being taken for a wrapper. -/
theorem unwrap_encode_binary_signature :
    (Tx.shape.encode ⟨some sendBody, some feeOnly, [[255, 1]]⟩).length < 2 ^ 64 ∧
      ¬ ReadsAsWrapper feeOnly [[255, 1]] ∧
      unwrap (Tx.shape.encode ⟨some sendBody, some feeOnly, [[255, 1]]⟩) =
        Tx.shape.encode ⟨some sendBody, some feeOnly, [[255, 1]]⟩ ∧
      Envelope.ofBytes (Tx.shape.encode ⟨some sendBody, some feeOnly, [[255, 1]]⟩) =
        .ok
          { messages := sendBody.messages
            memo := some ""
            timeoutHeight := some 0
            authInfo := feeOnly } := by
  have hsize : (Tx.shape.encode ⟨some sendBody, some feeOnly, [[255, 1]]⟩).length < 2 ^ 64 := by
    decide +kernel
  have hplain : ¬ ReadsAsWrapper feeOnly [[255, 1]] := by
    rintro (⟨-, h⟩ | ⟨-, h⟩)
    · exact absurd h.getLast?_eq (by decide +kernel)
    · exact absurd h.getLast?_eq (by decide +kernel)
  obtain ⟨hunwrap, henvelope, -⟩ := unwrap_encode sendBody feeOnly [[255, 1]] hsize
  exact ⟨hsize, hplain, hunwrap.2 hplain, henvelope hplain⟩

/-- The four letters of a type in place of a signature make a transaction one with its blobs. -/
theorem unwrap_encode_ne_of_letters :
    unwrap (Tx.shape.encode ⟨some sendBody, some feeOnly, [[66, 76, 79, 66]]⟩) ≠
      Tx.shape.encode ⟨some sendBody, some feeOnly, [[66, 76, 79, 66]]⟩ := by
  decide +kernel

end ChainRecord.Transaction
