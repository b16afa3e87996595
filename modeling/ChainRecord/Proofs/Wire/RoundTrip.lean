import ChainRecord.Proofs.Wire.Run

/-!
# Reading messages back

The canonical form of a message is read back as that message, for every shape that can be read at
all: numbers of fields differ from each other and messages are not nested too deeply (`fits`).

The proof follows the shape. What is written of a field is a run over fields of one number that
takes the value of an absent field to the value written (`Kind.fieldRun`). In a row each field is
handed past the fields in front of it, which have other numbers (`Fields.fieldRun`), and a message
is read as its row is (`Shape.fieldRun`).
-/

namespace ChainRecord.Wire

/-! ### Numbers and texts -/

theorem Numeric.toWord_lt {β : Type} (numeric : Numeric β) (value : β) :
    numeric.toWord value < 2 ^ 64 := by
  cases numeric with
  | bool => cases value <;> decide
  | uint32 => exact Nat.lt_trans value.toNat_lt (by decide)
  | uint64 => exact value.toNat_lt
  | int32 => exact value.toInt64.toUInt64.toNat_lt
  | int64 => exact value.toUInt64.toNat_lt

/-- A number is what its word stands for. -/
theorem Numeric.ofWord_toWord {β : Type} (numeric : Numeric β) (value : β) :
    numeric.ofWord (numeric.toWord value) = value := by
  cases numeric with
  | bool => cases value <;> rfl
  | uint32 => simp [ofWord, toWord]
  | uint64 => simp [ofWord, toWord]
  | int32 =>
    apply Int32.toBitVec_inj.1
    simp only [ofWord, toWord, UInt32.toBitVec_toInt32, UInt32.ofNat_uInt64ToNat,
      UInt64.toBitVec_toUInt32, Int64.toBitVec_toUInt64, Int32.toBitVec_toInt64]
    -- the lower half of a sign extension is the number that was extended
    apply BitVec.eq_of_getLsbD_eq
    intro i hi
    simp only [BitVec.getLsbD_setWidth, BitVec.getLsbD_signExtend, hi, decide_true, Bool.true_and,
      if_true]
    simp only [Nat.lt_trans hi (by decide : 32 < 64), decide_true, Bool.true_and]
  | int64 => simp [ofWord, toWord]

theorem Numeric.toWord_zero {β : Type} (numeric : Numeric β) : numeric.toWord numeric.zero = 0 := by
  cases numeric <;> rfl

/-- Only zero is written as zero. -/
theorem Numeric.eq_zero_of_isZero {β : Type} {numeric : Numeric β} {value : β}
    (h : numeric.isZero value = true) : numeric.zero = value := by
  have hword : numeric.toWord value = 0 := by simpa [isZero] using h
  rw [← numeric.ofWord_toWord numeric.zero, numeric.toWord_zero, ← hword, numeric.ofWord_toWord]

/-- A text or byte string is what its bytes stand for. -/
theorem Textual.ofBytes?_toBytes {β : Type} (textual : Textual β) (value : β) :
    textual.ofBytes? (textual.toBytes value) = some value := by
  cases textual with
  | string =>
    show String.fromUTF8? ⟨value.toUTF8.data.toList.toArray⟩ = some value
    rw [Array.toArray_toList, String.fromUTF8?]
    exact dif_pos value.isValidUTF8
  | bytes => rfl

/-- The bytes of a text or byte string are those it was made of. -/
theorem Textual.toBytes_of_ofBytes? {β : Type} {textual : Textual β} {content : Bytes}
    {value : β} (h : textual.ofBytes? content = some value) : textual.toBytes value = content := by
  cases textual with
  | string =>
    change String.fromUTF8? ⟨content.toArray⟩ = some value at h
    rw [String.fromUTF8?] at h
    split at h
    · obtain rfl := Option.some.inj h
      rfl
    · exact absurd h (by simp)
  | bytes => exact (Option.some.inj h).symm

theorem Textual.toBytes_empty {β : Type} (textual : Textual β) :
    textual.toBytes textual.empty = [] := by
  cases textual <;> rfl

/-- Only the empty text or byte string has no bytes. -/
theorem Textual.eq_empty_of_toBytes {β : Type} {textual : Textual β} {value : β}
    (h : textual.toBytes value = []) : textual.empty = value := by
  have hempty := textual.ofBytes?_toBytes textual.empty
  rw [textual.toBytes_empty, ← h, textual.ofBytes?_toBytes] at hempty
  exact (Option.some.inj hempty).symm

theorem Numeric.read_writeVarint {β : Type} (numeric : Numeric β) (value : β) (rest : Bytes) :
    numeric.read (writeVarint (numeric.toWord value) ++ rest) = .ok (value, rest) := by
  rw [read, readVarint_writeVarint (numeric.toWord_lt value)]
  show Except.ok (numeric.ofWord (numeric.toWord value), rest) = _
  rw [numeric.ofWord_toWord]

theorem Textual.read_writeSized {β : Type} (textual : Textual β) (value : β)
    (hsize : (textual.toBytes value).length < 2 ^ 64) (rest : Bytes) :
    textual.read (writeSized (textual.toBytes value) ++ rest) = .ok (value, rest) := by
  rw [read, readSized_writeSized hsize]
  show (require .notUtf8 (textual.ofBytes? (textual.toBytes value))).bind _ = _
  rw [textual.ofBytes?_toBytes]
  rfl

/-! ### Shapes that can be read -/

/-- The numbers of fields, in order. -/
def Fields.numbers {ρ : Type} : Fields ρ → List Nat
  | .nil => []
  | .cons number _ _ rest => number :: rest.numbers

/-- The numbers of the fields of a message, in order. -/
def Shape.numbers {α : Type} : Shape α → List Nat
  | .mk _ fields _ _ _ _ => fields.numbers

mutual

/-- Whether values of a kind can be read when messages may be nested to a depth. -/
def Kind.fits {β : Type} : Kind β → Nat → Bool
  | .number _, _ => true
  | .text _, _ => true
  | .numbers _, _ => true
  | .texts _, _ => true
  | .message shape, depth =>
    match depth with
    | 0 => false
    | depth + 1 => shape.fits depth
  | .messages shape, depth =>
    match depth with
    | 0 => false
    | depth + 1 => shape.fits depth

/-- Whether rows can be read: numbers are those of fields and differ from each other. -/
def Fields.fits {ρ : Type} : Fields ρ → Nat → Bool
  | .nil, _ => true
  | .cons number _ kind rest, depth =>
    isFieldNumber number && !rest.numbers.contains number && kind.fits depth && rest.fits depth

/-- Whether messages of a shape can be read. -/
def Shape.fits {α : Type} : Shape α → Nat → Bool
  | .mk _ fields _ _ _ _, depth => fields.fits depth

end

/-! ### Fields of a row -/

/-- A value is read into the first field of a row if the number is that of the field. -/
theorem Fields.readField_cons_self {β ρ : Type} {number : Nat} {name : String} {kind : Kind β}
    {fields : Fields ρ} {owner : String} {depth : Nat} {wireType : WireType} {value value' : β}
    {row : ρ} {bytes rest : Bytes}
    (h : kind.readField depth wireType value bytes = .ok (value', rest)) :
    (Fields.cons number name kind fields).readField owner depth ⟨number, wireType⟩ (value, row)
      bytes = .ok ((value', row), rest) := by
  rw [readField, if_pos rfl, h]

/-- A value is read into the other fields of a row if the number is that of another field. -/
theorem Fields.readField_cons_of_ne {β ρ : Type} {number : Nat} {name : String} {kind : Kind β}
    {fields : Fields ρ} {owner : String} {depth : Nat} {key : Key} (hne : key.number ≠ number)
    {value : β} {row row' : ρ} {bytes rest : Bytes}
    (h : fields.readField owner depth key row bytes = .ok (row', rest)) :
    (Fields.cons number name kind fields).readField owner depth key (value, row) bytes =
      .ok ((value, row'), rest) := by
  rw [readField, if_neg hne, h]
  rfl

section Packed

variable {α ρ : Type} {name : String} {fields : Fields ρ} {pack : ρ → α} {unpack : α → ρ}
  (pack_unpack : ∀ a, pack (unpack a) = a) (unpack_pack : ∀ r, unpack (pack r) = r) {depth : Nat}

/-- A field of a message is read as that of its row is. -/
theorem Shape.readField_pack (key : Key) (row : ρ) (bytes : Bytes) :
    (Shape.mk name fields pack unpack pack_unpack unpack_pack).readField depth key (pack row)
        bytes =
      (fields.readField name depth key row bytes).map fun (row, rest) ↦ (pack row, rest) := by
  rw [readField, unpack_pack]

/-- A message is read as its row is. -/
theorem Shape.fieldRun_pack {own : Nat → Prop} {row row' : ρ} {bytes : Bytes}
    (h : FieldRun (fields.readField name depth) own row bytes row') :
    FieldRun ((Shape.mk name fields pack unpack pack_unpack unpack_pack).readField depth) own
      (pack row) bytes (pack row') := by
  refine h.map pack (fun _ hn ↦ hn) (fun key state middle bytes rest _ hread ↦ ?_)
  rw [Shape.readField_pack, hread]
  rfl

end Packed

/-- What is read of one field of a row is read in the row. -/
theorem Fields.fieldRun_head {β ρ : Type} {number : Nat} {name : String} {kind : Kind β}
    {fields : Fields ρ} {owner : String} {depth : Nat} {value value' : β} {bytes : Bytes}
    (h : FieldRun (fun key ↦ kind.readField depth key.wireType) (· = number) value bytes value')
    (row : ρ) :
    FieldRun ((Fields.cons number name kind fields).readField owner depth)
      (· ∈ (Fields.cons number name kind fields).numbers) (value, row) bytes (value', row) := by
  refine h.map (fun value ↦ (value, row)) (fun n hn ↦ ?_)
    (fun key state middle bytes rest hkey hread ↦ ?_)
  · exact List.mem_cons.2 (Or.inl hn)
  · obtain ⟨n, wireType⟩ := key
    obtain rfl : n = number := hkey
    exact Fields.readField_cons_self hread

/-- What is read of the other fields of a row is read in the row. -/
theorem Fields.fieldRun_tail {β ρ : Type} {number : Nat} {name : String} {kind : Kind β}
    {fields : Fields ρ} {owner : String} {depth : Nat} (hnumber : number ∉ fields.numbers)
    {row row' : ρ} {bytes : Bytes}
    (h : FieldRun (fields.readField owner depth) (· ∈ fields.numbers) row bytes row') (value : β) :
    FieldRun ((Fields.cons number name kind fields).readField owner depth)
      (· ∈ (Fields.cons number name kind fields).numbers) (value, row) bytes (value, row') := by
  refine h.map (fun row ↦ (value, row)) (fun n hn ↦ ?_)
    (fun key state middle bytes rest hkey hread ↦ ?_)
  · exact List.mem_cons.2 (Or.inr hn)
  · refine Fields.readField_cons_of_ne (fun heq ↦ hnumber ?_) hread
    rwa [← heq]

/-! ### Fields of one kind -/

/-- Numbers are added behind those that are there. -/
theorem Numeric.run_writeAll {β : Type} (numeric : Numeric β) (values state : List β) :
    Run numeric.readNext state (numeric.writeAll values) (state ++ values) := by
  refine Run.collect (fun value ↦ writeVarint_ne_nil (numeric.toWord value)) values
    (fun state value _ rest ↦ ?_) state
  rw [Numeric.readNext, numeric.read_writeVarint]
  rfl

/-- A content takes no more bytes than the field it is written in. -/
theorem length_lt_of_field {number bound : Nat} {content : Bytes}
    (h : (writeKey number .lengthDelimited ++ writeSized content).length < bound) :
    content.length < bound := by
  have hcontent := length_le_writeSized content
  rw [List.length_append] at h
  omega

/-- A content takes no more bytes than the fields it is written in with others. -/
theorem length_lt_of_mem {α : Type} {number bound : Nat} {write : α → Bytes} {items : List α}
    {a : α} (ha : a ∈ items)
    (h : (items.flatMap fun a ↦ writeKey number .lengthDelimited ++ writeSized (write a)).length <
      bound) : (write a).length < bound := by
  obtain ⟨front, back, rfl⟩ := List.append_of_mem ha
  simp only [List.flatMap_append, List.flatMap_cons, List.length_append] at h
  have hcontent := length_le_writeSized (write a)
  omega

/-- A message is read back behind its length, one level further in. -/
theorem readMessage_writeSized {α : Type}
    {readField : Nat → Key → α → Bytes → Except Fault (α × Bytes)} {depth : Nat} {own : Nat → Prop}
    {message final : α} {content : Bytes}
    (h : FieldRun (readField depth) own message content final) (hsize : content.length < 2 ^ 64)
    (rest : Bytes) :
    readMessage readField (depth + 1) .lengthDelimited message (writeSized content ++ rest) =
      .ok (final, rest) :=
  readSpan_writeSized h.run hsize rest

section Kinds

variable {β : Type} {number : Nat} (hnumber : isFieldNumber number = true) (depth : Nat)
include hnumber

theorem Kind.fieldRun_number (numeric : Numeric β) (value : β) :
    FieldRun (fun key ↦ (Kind.number numeric).readField depth key.wireType) (· = number)
      numeric.zero ((Kind.number numeric).write number value) value := by
  rw [Kind.write]
  by_cases hzero : numeric.isZero value = true
  · rw [if_pos hzero, Numeric.eq_zero_of_isZero hzero]
    exact .nil value
  · rw [if_neg hzero]
    exact .single rfl hnumber (numeric.read_writeVarint value)

theorem Kind.fieldRun_text (textual : Textual β) (value : β)
    (hsize : ((Kind.text textual).write number value).length < 2 ^ 64) :
    FieldRun (fun key ↦ (Kind.text textual).readField depth key.wireType) (· = number)
      textual.empty ((Kind.text textual).write number value) value := by
  rw [Kind.write] at hsize ⊢
  by_cases hempty : (textual.toBytes value).isEmpty = true
  · rw [if_pos hempty, Textual.eq_empty_of_toBytes (List.isEmpty_iff.1 hempty)]
    exact .nil value
  · rw [if_neg hempty] at hsize ⊢
    exact .single rfl hnumber (textual.read_writeSized value (length_lt_of_field hsize))

theorem Kind.fieldRun_numbers (numeric : Numeric β) (values : List β)
    (hsize : ((Kind.numbers numeric).write number values).length < 2 ^ 64) :
    FieldRun (fun key ↦ (Kind.numbers numeric).readField depth key.wireType) (· = number)
      [] ((Kind.numbers numeric).write number values) values := by
  rw [Kind.write] at hsize ⊢
  by_cases hempty : values.isEmpty = true
  · rw [if_pos hempty, List.isEmpty_iff.1 hempty]
    exact .nil []
  · rw [if_neg hempty] at hsize ⊢
    exact .single rfl hnumber
      (readSpan_writeSized (numeric.run_writeAll values []) (length_lt_of_field hsize))

theorem Kind.fieldRun_texts (textual : Textual β) (values : List β)
    (hsize : ((Kind.texts textual).write number values).length < 2 ^ 64) :
    FieldRun (fun key ↦ (Kind.texts textual).readField depth key.wireType) (· = number)
      [] ((Kind.texts textual).write number values) values := by
  rw [Kind.write] at hsize ⊢
  refine FieldRun.collect hnumber values (fun state value hvalue rest ↦ ?_) []
  show (textual.read _).bind _ = _
  rw [textual.read_writeSized value (length_lt_of_mem hvalue hsize)]
  rfl

/-- A message is read back where the fields of its shape are. -/
theorem Kind.fieldRun_message {α : Type} {shape : Shape α} {depth : Nat} {value : Option α}
    (hshape : ∀ m, (shape.encode m).length < 2 ^ 64 →
      FieldRun (shape.readField depth) (· ∈ shape.numbers) shape.absent (shape.encode m) m)
    (hsize : ((Kind.message shape).write number value).length < 2 ^ 64) :
    FieldRun (fun key ↦ (Kind.message shape).readField (depth + 1) key.wireType) (· = number)
      none ((Kind.message shape).write number value) value := by
  cases value with
  | none =>
    rw [Kind.write]
    exact .nil none
  | some m =>
    rw [Kind.write] at hsize ⊢
    have hm := length_lt_of_field hsize
    refine .single rfl hnumber fun rest ↦ ?_
    rw [Kind.readField, Option.getD_none, readMessage_writeSized (hshape m hm) hm]
    rfl

/-- Messages are read back where the fields of their shape are. -/
theorem Kind.fieldRun_messages {α : Type} {shape : Shape α} {depth : Nat} {values : List α}
    (hshape : ∀ m, (shape.encode m).length < 2 ^ 64 →
      FieldRun (shape.readField depth) (· ∈ shape.numbers) shape.absent (shape.encode m) m)
    (hsize : ((Kind.messages shape).write number values).length < 2 ^ 64) :
    FieldRun (fun key ↦ (Kind.messages shape).readField (depth + 1) key.wireType) (· = number)
      [] ((Kind.messages shape).write number values) values := by
  rw [Kind.write] at hsize ⊢
  refine FieldRun.collect hnumber values (fun state m hmem rest ↦ ?_) []
  have hm := length_lt_of_mem hmem hsize
  rw [Kind.readField, readMessage_writeSized (hshape m hm) hm]
  rfl

end Kinds

/-! ### All shapes -/

mutual

/-- What is written of a field is read back into the field, from the value of an absent one. -/
theorem Kind.fieldRun {β : Type} : (kind : Kind β) → (depth : Nat) → kind.fits depth = true →
    {number : Nat} → isFieldNumber number = true → (value : β) →
    (kind.write number value).length < 2 ^ 64 →
    FieldRun (fun key ↦ kind.readField depth key.wireType) (· = number) kind.absent
      (kind.write number value) value
  | .number numeric, depth, _, _, hnumber, value, _ =>
    Kind.fieldRun_number hnumber depth numeric value
  | .text textual, depth, _, _, hnumber, value, hsize =>
    Kind.fieldRun_text hnumber depth textual value hsize
  | .numbers numeric, depth, _, _, hnumber, values, hsize =>
    Kind.fieldRun_numbers hnumber depth numeric values hsize
  | .texts textual, depth, _, _, hnumber, values, hsize =>
    Kind.fieldRun_texts hnumber depth textual values hsize
  | .message shape, depth + 1, hfits, _, hnumber, _, hsize =>
    Kind.fieldRun_message hnumber (fun m hm ↦ Shape.fieldRun shape depth hfits m hm) hsize
  | .messages shape, depth + 1, hfits, _, hnumber, _, hsize =>
    Kind.fieldRun_messages hnumber (fun m hm ↦ Shape.fieldRun shape depth hfits m hm) hsize

/-- What is written of a row is read back into the row, from the one in which no field occurs. -/
theorem Fields.fieldRun {ρ : Type} : (fields : Fields ρ) → (depth : Nat) →
    fields.fits depth = true → (owner : String) → (row : ρ) →
    (fields.write row).length < 2 ^ 64 →
    FieldRun (fields.readField owner depth) (· ∈ fields.numbers) fields.absent (fields.write row)
      row
  | .nil, _, _, _, (), _ => .nil ()
  | .cons number name kind rest, depth, hfits, owner, (value, row), hsize => by
    rw [Fields.fits, Bool.and_eq_true, Bool.and_eq_true, Bool.and_eq_true] at hfits
    obtain ⟨⟨⟨hnumber, hother⟩, hkind⟩, hrest⟩ := hfits
    have hmem : number ∉ rest.numbers := by simpa using hother
    -- the first field is read past the absent values of the others, these past its value
    rw [Fields.write, List.length_append] at hsize
    rw [Fields.write]
    exact (Fields.fieldRun_head (kind.fieldRun depth hkind hnumber value (by omega))
      rest.absent).append
        (Fields.fieldRun_tail hmem (rest.fieldRun depth hrest owner row (by omega)) value)

/-- What is written of a message is read back into the message in which no field occurs. -/
theorem Shape.fieldRun {α : Type} : (shape : Shape α) → (depth : Nat) → shape.fits depth = true →
    (m : α) → (shape.encode m).length < 2 ^ 64 →
    FieldRun (shape.readField depth) (· ∈ shape.numbers) shape.absent (shape.encode m) m
  | .mk name fields pack unpack pack_unpack unpack_pack, depth, hfits, m, hsize => by
    have h := Shape.fieldRun_pack pack_unpack unpack_pack
      (fields.fieldRun depth hfits name (unpack m) hsize)
    rwa [pack_unpack] at h

end

/-- What is read from end to end as a run is the message of the run. -/
theorem Shape.decode_of_fieldRun {α : Type} {shape : Shape α} {own : Nat → Prop} {bytes : Bytes}
    {m : α} (h : FieldRun (shape.readField maxDepth) own shape.absent bytes m) :
    shape.decode bytes = .ok m := by
  obtain ⟨left, -, heq⟩ := readUntil_run_append h.run (Nat.le_refl [].length)
    (Nat.le_refl bytes.length)
  rw [List.append_nil, readUntil_of_length_le (Nat.le_refl _)] at heq
  rw [Shape.decode]
  exact congrArg (Except.map Prod.fst) heq

/-- A message cannot be read if a field behind a run cannot be read. -/
theorem Shape.decode_error_of_fieldRun {α : Type} {shape : Shape α} {own : Nat → Prop}
    {front back : Bytes} {middle : α} {fault : Fault}
    (h : FieldRun (shape.readField maxDepth) own shape.absent front middle) (hback : back ≠ [])
    (hread : readKeyed (shape.readField maxDepth) middle back = .error fault) :
    shape.decode (front ++ back) = .error fault := by
  have hpos : 0 < back.length := List.length_pos_iff.2 hback
  rw [Shape.decode, readUntil_error_of_run h.run hpos hread (by rw [List.length_append]; omega)]
  rfl

/-- **Messages are read back.** The canonical form of a message is read as that message, whatever
its fields hold, if its length is a number that can be written. -/
theorem Shape.decode_encode {α : Type} (shape : Shape α) (hfits : shape.fits maxDepth = true)
    (m : α) (hsize : (shape.encode m).length < 2 ^ 64) : shape.decode (shape.encode m) = .ok m :=
  Shape.decode_of_fieldRun (shape.fieldRun maxDepth hfits m hsize)

end ChainRecord.Wire
