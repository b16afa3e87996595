import ChainRecord.Proofs.Wire.Length
import ChainRecord.Proofs.Wire.Remainder

/-!
# Weights of messages

What is read from bytes cannot be much larger than the bytes, although it need not be as small: a
number may be written shorter than in its canonical form, which extends its sign, and a length may
grow with its content.

The weight of a message counts a unit for every field and every number, beside the bytes of texts.
Each of them takes a byte at least behind its key, so a message weighs no more than a unit for each
byte it is read from (`Shape.weight_le_of_decode`); and with units of twenty-five bytes, five for a
key, ten for a number or a length and ten for a number among others, its canonical form is no longer
than its weight (`Shape.length_encode_le`).
-/

namespace ChainRecord.Wire

/-! ### Weights -/

mutual

/-- The weight of a field. -/
def Kind.weight {β : Type} (unit : Nat) : Kind β → β → Nat
  | .number numeric, value => if numeric.isZero value then 0 else unit
  | .text textual, value =>
    let length := (textual.toBytes value).length
    if length = 0 then 0 else unit + length
  | .numbers _, values => unit * values.length
  | .texts textual, values => totalLength (fun value ↦ unit + (textual.toBytes value).length) values
  | .message shape, value =>
    match value with
    | none => 0
    | some message => unit + shape.weight unit message
  | .messages shape, values => totalLength (fun message ↦ unit + shape.weight unit message) values

/-- The weight of a row. -/
def Fields.weight {ρ : Type} (unit : Nat) : Fields ρ → ρ → Nat
  | .nil, () => 0
  | .cons _ _ kind rest, (value, row) => kind.weight unit value + rest.weight unit row

/-- The weight of a message. -/
def Shape.weight {α : Type} (unit : Nat) : Shape α → α → Nat
  | .mk _ fields _ unpack _ _, message => fields.weight unit (unpack message)

end

section Absent

variable {unit : Nat}

theorem Kind.weight_absent {β : Type} (kind : Kind β) : kind.weight unit kind.absent = 0 := by
  cases kind with
  | number numeric =>
    rw [Kind.weight]
    exact if_pos (by simp [Numeric.isZero, Kind.absent, Numeric.toWord_zero])
  | text textual =>
    rw [Kind.weight]
    exact if_pos (by simp [Kind.absent, Textual.toBytes_empty])
  | numbers numeric => rfl
  | texts textual => rfl
  | message shape => rfl
  | messages shape => rfl

theorem Fields.weight_absent {ρ : Type} : (fields : Fields ρ) →
    fields.weight unit fields.absent = 0
  | .nil => rfl
  | .cons _ _ kind rest => by
    rw [Fields.absent, Fields.weight, kind.weight_absent, Fields.weight_absent rest]

/-- The message in which no field occurs weighs nothing. -/
theorem Shape.weight_absent {α : Type} (shape : Shape α) : shape.weight unit shape.absent = 0 := by
  obtain ⟨name, fields, pack, unpack, -, unpack_pack⟩ := shape
  rw [Shape.absent, Shape.weight, unpack_pack, fields.weight_absent]

end Absent

theorem totalLength_cons {α : Type} (length : α → Nat) (a : α) (items : List α) :
    totalLength length (a :: items) = length a + totalLength length items := rfl

theorem totalLength_append {α : Type} (length : α → Nat) (items items' : List α) :
    totalLength length (items ++ items') =
      totalLength length items + totalLength length items' := by
  induction items with
  | nil => simp [totalLength]
  | cons a items ih =>
    rw [List.cons_append, totalLength_cons, totalLength_cons, ih, Nat.add_assoc]

theorem totalLength_singleton {α : Type} (length : α → Nat) (a : α) :
    totalLength length [a] = length a := rfl

/-! ### What is read -/

section Pays

variable {σ : Type} {unit : Nat} {weight : σ → Nat}
  {read : σ → Bytes → Except Fault (σ × Bytes)}

/-- A reader adds no more weight than a unit for each byte it takes. -/
def Pays (unit : Nat) (weight : σ → Nat) (read : σ → Bytes → Except Fault (σ × Bytes)) : Prop :=
  ∀ ⦃state bytes final rest⦄, read state bytes = .ok (final, rest) →
    weight final + unit * rest.length ≤ weight state + unit * bytes.length

/-- A number pays a unit. -/
theorem pays_of_readVarint (unit : Nat) {n : Nat} {bytes rest : Bytes}
    (h : readVarint bytes = some (n, rest)) :
    unit + unit * rest.length ≤ unit * bytes.length := by
  have hmul := Nat.mul_le_mul_left unit (Nat.succ_le_of_lt (readVarint_length_lt h))
  rw [Nat.mul_succ] at hmul
  omega

theorem Pays.readUntil (hread : Pays unit weight read) (stop fuel : Nat) :
    Pays unit weight (readUntil stop read fuel) := by
  intro state bytes final rest h
  refine readUntil_induction (motive := fun middle left ↦
    weight middle + unit * left.length ≤ weight state + unit * bytes.length) ?_ (Nat.le_refl _) h
  intro middle left next behind hmiddle hround
  exact (hread hround).trans hmiddle

/-- The length of a span pays a unit more. -/
theorem Pays.readSpan (hread : Pays unit weight read) {state final : σ} {bytes rest : Bytes}
    (h : readSpan read state bytes = .ok (final, rest)) :
    unit + weight final + unit * rest.length ≤ weight state + unit * bytes.length := by
  obtain ⟨count, body, hcount, -, hloop, -⟩ := readSpan_eq_ok h
  have hbody := hread.readUntil _ _ hloop
  have hlength := pays_of_readVarint unit hcount
  omega

theorem Pays.readKeyed {readField : Key → σ → Bytes → Except Fault (σ × Bytes)}
    (hread : ∀ key, Pays unit weight (readField key)) : Pays unit weight (readKeyed readField) := by
  intro state bytes final rest h
  obtain ⟨⟨key, behind⟩, hkey, h⟩ := bind_eq_ok_iff.1 h
  obtain ⟨n, hn⟩ := readKey_eq_ok hkey
  have hfield := hread key h
  have hpays := pays_of_readVarint unit hn
  omega

end Pays

/-- The content of a text pays for its bytes, and its length for the text. -/
theorem Textual.pays_of_read {β : Type} {textual : Textual β} {unit : Nat} (hunit : 1 ≤ unit)
    {value : β} {bytes rest : Bytes} (h : textual.read bytes = .ok (value, rest)) :
    unit + (textual.toBytes value).length + unit * rest.length ≤ unit * bytes.length := by
  obtain ⟨content, hcontent, hvalue⟩ := Textual.read_eq_ok h
  obtain ⟨n, hn⟩ := readSized_eq_ok hcontent
  have hpays := pays_of_readVarint unit hn
  have hbytes := Nat.mul_le_mul_right content.length hunit
  rw [List.length_append, Nat.mul_add] at hpays
  rw [Textual.toBytes_of_ofBytes? hvalue]
  omega

theorem Numeric.pays_readNext {β : Type} (numeric : Numeric β) (unit : Nat) :
    Pays unit (fun values ↦ unit * values.length) numeric.readNext := by
  intro values bytes final rest h
  obtain ⟨value, n, rfl, hn⟩ := Numeric.readNext_eq_ok h
  have hpays := pays_of_readVarint unit hn
  dsimp only
  rw [List.length_append, List.length_singleton, Nat.mul_add, Nat.mul_one]
  omega

mutual

/-- What is read into a field weighs no more than a unit for each of its bytes. -/
theorem Kind.pays_readField {unit : Nat} (hunit : 1 ≤ unit) {β : Type} : (kind : Kind β) →
    (depth : Nat) → (wireType : WireType) →
    Pays unit (kind.weight unit) (kind.readField depth wireType)
  | .number numeric, _, _, _, _, final, _, h => by
    obtain ⟨n, hn⟩ := Kind.readField_number_eq_ok h
    have hpays := pays_of_readVarint unit hn
    -- the number that was there is replaced, so only the new one has to be paid
    rw [Kind.weight, Kind.weight]
    split <;> omega
  | .text textual, _, _, _, _, final, _, h => by
    have hpays := Textual.pays_of_read hunit (Kind.readField_text_eq_ok h)
    rw [Kind.weight, Kind.weight]
    split <;> omega
  | .numbers numeric, _, _, _, _, _, _, h => by
    rcases Kind.readField_numbers_eq_ok h with hspan | hnext
    · have hpays := (numeric.pays_readNext unit).readSpan hspan
      rw [Kind.weight, Kind.weight]
      omega
    · exact numeric.pays_readNext unit hnext
  | .texts textual, _, _, _, _, _, _, h => by
    obtain ⟨value, rfl, hvalue⟩ := Kind.readField_texts_eq_ok h
    have hpays := Textual.pays_of_read hunit hvalue
    rw [Kind.weight, Kind.weight, totalLength_append, totalLength_singleton]
    omega
  | .message shape, _, _, value, _, _, _, h => by
    obtain ⟨m, inner, rfl, hspan⟩ := Kind.readField_message_eq_ok h
    have hpays := (Pays.readKeyed (Shape.pays_readField hunit shape inner)).readSpan hspan
    -- the length of the span pays for the message, which may have been there before
    cases value with
    | none =>
      rw [Option.getD_none, shape.weight_absent] at hpays
      rw [Kind.weight, Kind.weight]
      omega
    | some message =>
      rw [Option.getD_some] at hpays
      rw [Kind.weight, Kind.weight]
      omega
  | .messages shape, _, _, values, _, _, _, h => by
    obtain ⟨m, inner, rfl, hspan⟩ := Kind.readField_messages_eq_ok h
    have hpays := (Pays.readKeyed (Shape.pays_readField hunit shape inner)).readSpan hspan
    rw [shape.weight_absent] at hpays
    rw [Kind.weight, Kind.weight, totalLength_append, totalLength_singleton]
    omega

/-- What is read into a row weighs no more than a unit for each of its bytes. -/
theorem Fields.pays_readField {unit : Nat} (hunit : 1 ≤ unit) {ρ : Type} : (fields : Fields ρ) →
    (owner : String) → (depth : Nat) → (key : Key) →
    Pays unit (fields.weight unit) (fields.readField owner depth key)
  | .nil, _, _, _, (), _, _, _, h => by
    obtain ⟨left, hleft, h⟩ := map_eq_ok_iff.1 h
    obtain ⟨-, rfl⟩ := Prod.mk.inj h
    exact Nat.add_le_add_left (Nat.mul_le_mul_left unit (skip_suffix hleft).length_le) 0
  | .cons _ _ kind fields, owner, depth, key, (_, _), _, _, _, h => by
    rcases Fields.readField_cons_eq_ok h with ⟨-, found, rfl, hfound⟩ | ⟨-, found, rfl, hfound⟩
    · have hpays := Kind.pays_readField hunit kind depth key.wireType hfound
      rw [Fields.weight, Fields.weight]
      omega
    · have hpays := Fields.pays_readField hunit fields owner depth key hfound
      rw [Fields.weight, Fields.weight]
      omega

/-- What is read into a message weighs no more than a unit for each of its bytes. -/
theorem Shape.pays_readField {unit : Nat} (hunit : 1 ≤ unit) {α : Type} : (shape : Shape α) →
    (depth : Nat) → (key : Key) →
    Pays unit (shape.weight unit) (shape.readField depth key)
  | .mk name fields _ _ _ unpack_pack, depth, key, _, _, _, _, h => by
    obtain ⟨⟨row, left⟩, hleft, h⟩ := map_eq_ok_iff.1 h
    obtain ⟨rfl, rfl⟩ := Prod.mk.inj h
    have hpays := Fields.pays_readField hunit fields name depth key hleft
    rwa [Shape.weight, Shape.weight, unpack_pack]

end

/-- A message weighs no more than a unit for each byte it is read from. -/
theorem Shape.weight_le_of_decode {unit : Nat} (hunit : 1 ≤ unit) {α : Type} (shape : Shape α)
    {bytes : Bytes} {m : α}
    (h : shape.decode bytes = .ok m) : shape.weight unit m ≤ unit * bytes.length := by
  obtain ⟨⟨final, rest⟩, hread, rfl⟩ := map_eq_ok_iff.1 h
  have hpays := (Pays.readKeyed (Shape.pays_readField hunit shape maxDepth)).readUntil _ _ hread
  rw [shape.weight_absent] at hpays
  dsimp only
  omega

/-! ### What is written -/

/-- A number of groups of seven bits is written in no more bytes. -/
theorem length_writeVarint_le {count n : Nat} (hcount : 0 < count) (h : n < 128 ^ count) :
    (writeVarint n).length ≤ count := by
  induction count generalizing n with
  | zero => exact absurd hcount (Nat.lt_irrefl 0)
  | succ count ih =>
    by_cases hn : n < 128
    · rw [writeVarint_of_lt hn, List.length_singleton]
      omega
    · rw [writeVarint_of_le (Nat.not_lt.1 hn), List.length_cons]
      have hdiv : n / 128 < 128 ^ count := by
        rw [Nat.div_lt_iff_lt_mul (by decide), ← Nat.pow_succ]
        exact h
      have hpos : 0 < count := by
        rcases Nat.eq_zero_or_pos count with rfl | hpos
        · omega
        · exact hpos
      exact Nat.succ_le_succ (ih hpos hdiv)

/-- A number of sixty-four bits is written in ten bytes. -/
theorem length_writeVarint_le_ten {n : Nat} (h : n < 2 ^ 64) : (writeVarint n).length ≤ 10 :=
  length_writeVarint_le (by decide) (Nat.lt_trans h (by decide))

/-- The key of a field is written in five bytes. -/
theorem length_writeKey_le {number : Nat} (h : isFieldNumber number = true) (wireType : WireType) :
    (writeKey number wireType).length ≤ 5 := by
  simp only [isFieldNumber, Bool.and_eq_true, decide_eq_true_eq] at h
  refine length_writeVarint_le (by decide) ?_
  have hcode : wireType.code < 8 := by cases wireType <;> decide
  show 8 * number + wireType.code < _
  omega

/-- A content behind a key and its length takes fifteen bytes more than the content. -/
theorem length_sized_le {number : Nat} (h : isFieldNumber number = true) (content : Bytes)
    (hsize : content.length < 2 ^ 64) :
    (writeKey number .lengthDelimited ++ writeSized content).length ≤ 15 + content.length := by
  have hkey := length_writeKey_le h .lengthDelimited
  have hlength := length_writeVarint_le_ten hsize
  rw [List.length_append, writeSized, List.length_append]
  omega

/-- Contents behind keys and lengths take no more than a unit beside each of them. -/
theorem length_flatMap_sized_le {α : Type} {number unit : Nat}
    (hnumber : isFieldNumber number = true) (hunit : 15 ≤ unit) {content : α → Bytes}
    {weight : α → Nat} {items : List α}
    (hcontent : ∀ a, weight a < 2 ^ 64 → (content a).length ≤ weight a)
    (hweight : totalLength (fun a ↦ unit + weight a) items < 2 ^ 64) :
    (items.flatMap fun a ↦ writeKey number .lengthDelimited ++ writeSized (content a)).length ≤
      totalLength (fun a ↦ unit + weight a) items := by
  induction items with
  | nil => exact Nat.le_refl 0
  | cons a items ih =>
    rw [totalLength_cons] at hweight ⊢
    have ha := hcontent a (by omega)
    have hsized := length_sized_le hnumber (content a) (by omega)
    have hitems := ih (by omega)
    rw [List.flatMap_cons, List.length_append]
    omega

/-- Numbers take ten bytes each. -/
theorem Numeric.length_writeAll_le {β : Type} (numeric : Numeric β) (values : List β) :
    (numeric.writeAll values).length ≤ 10 * values.length := by
  induction values with
  | nil => exact Nat.le_refl 0
  | cons value values ih =>
    have hvalue := length_writeVarint_le_ten (numeric.toWord_lt value)
    have hcons : numeric.writeAll (value :: values) =
        writeVarint (numeric.toWord value) ++ numeric.writeAll values := List.flatMap_cons
    rw [hcons, List.length_append, List.length_cons]
    omega

mutual

/-- What is written of a field is no longer than the field weighs. -/
theorem Kind.length_write_le {unit : Nat} (hunit : 25 ≤ unit) {β : Type} : (kind : Kind β) →
    {depth : Nat} → kind.fits depth = true → {number : Nat} → isFieldNumber number = true →
    (value : β) → kind.weight unit value < 2 ^ 64 →
    (kind.write number value).length ≤ kind.weight unit value
  | .number numeric, _, _, number, hnumber, value, _ => by
    rw [Kind.write, Kind.weight]
    have hkey := length_writeKey_le hnumber .varint
    have hvalue := length_writeVarint_le_ten (numeric.toWord_lt value)
    split
    · exact Nat.le_refl 0
    · rw [List.length_append]
      omega
  | .text textual, _, _, number, hnumber, value, hweight => by
    rw [Kind.weight] at hweight ⊢
    rw [Kind.write]
    by_cases hempty : textual.toBytes value = []
    · simp [hempty]
    · rw [if_neg (by simpa using hempty)] at hweight ⊢
      rw [if_neg (by simpa using hempty)]
      have hsized := length_sized_le hnumber (textual.toBytes value) (by omega)
      omega
  | .numbers numeric, _, _, number, hnumber, values, hweight => by
    rw [Kind.weight] at hweight ⊢
    rw [Kind.write]
    by_cases hempty : values = []
    · simp [hempty]
    · rw [if_neg (by simpa using hempty)]
      -- there is a number, whose unit also covers the key and the length
      have hpos := List.length_pos_iff.2 hempty
      have hcontent := numeric.length_writeAll_le values
      have hunits := Nat.mul_le_mul_right values.length hunit
      have hsized := length_sized_le hnumber (numeric.writeAll values) (by omega)
      omega
  | .texts textual, _, _, number, hnumber, values, hweight => by
    rw [Kind.weight] at hweight ⊢
    rw [Kind.write]
    exact length_flatMap_sized_le hnumber (by omega) (fun _ _ ↦ Nat.le_refl _) hweight
  | .message shape, _, _, _, _, none, _ => Nat.zero_le _
  | .message shape, depth + 1, hfits, number, hnumber, some m, hweight => by
    rw [Kind.weight] at hweight ⊢
    rw [Kind.write]
    have hm := Shape.length_encode_le hunit shape hfits m (by omega)
    have hsized := length_sized_le hnumber (shape.encode m) (by omega)
    omega
  | .messages shape, depth + 1, hfits, number, hnumber, values, hweight => by
    rw [Kind.weight] at hweight ⊢
    rw [Kind.write]
    exact length_flatMap_sized_le hnumber (by omega)
      (fun m hm ↦ Shape.length_encode_le hunit shape hfits m hm) hweight

/-- What is written of a row is no longer than the row weighs. -/
theorem Fields.length_write_le {unit : Nat} (hunit : 25 ≤ unit) {ρ : Type} : (fields : Fields ρ) →
    {depth : Nat} → fields.fits depth = true → (row : ρ) → fields.weight unit row < 2 ^ 64 →
    (fields.write row).length ≤ fields.weight unit row
  | .nil, _, _, (), _ => Nat.le_refl 0
  | .cons number _ kind rest, depth, hfits, (value, row), hweight => by
    rw [Fields.fits, Bool.and_eq_true, Bool.and_eq_true, Bool.and_eq_true] at hfits
    obtain ⟨⟨⟨hnumber, -⟩, hkind⟩, hrest⟩ := hfits
    rw [Fields.weight] at hweight ⊢
    have hvalue := Kind.length_write_le hunit kind hkind hnumber value (by omega)
    have hrow := Fields.length_write_le hunit rest hrest row (by omega)
    rw [Fields.write, List.length_append]
    omega

/-- The canonical form of a message is no longer than the message weighs. -/
theorem Shape.length_encode_le {unit : Nat} (hunit : 25 ≤ unit) {α : Type} : (shape : Shape α) →
    {depth : Nat} → shape.fits depth = true → (m : α) → shape.weight unit m < 2 ^ 64 →
    (shape.encode m).length ≤ shape.weight unit m
  | .mk _ fields _ unpack _ _, _, hfits, m, hweight =>
    Fields.length_write_le hunit fields hfits (unpack m) hweight

end

/-- What is read from bytes is written in no more than twenty-five times as many. -/
theorem Shape.length_encode_le_of_decode {α : Type} {shape : Shape α} {depth : Nat}
    (hfits : shape.fits depth = true) {bytes : Bytes} {m : α} (h : shape.decode bytes = .ok m)
    (hsize : 25 * bytes.length < 2 ^ 64) : (shape.encode m).length ≤ 25 * bytes.length := by
  have hweight := shape.weight_le_of_decode (by decide : 1 ≤ 25) h
  exact (shape.length_encode_le (Nat.le_refl 25) hfits m (by omega)).trans hweight

end ChainRecord.Wire
