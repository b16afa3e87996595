import ChainRecord.Proofs.Wire.RoundTrip

/-!
# Lengths of canonical forms

The length that is computed without writing is the length of what is written, for every shape
(`Shape.encodedLength_eq`).
-/

namespace ChainRecord.Wire

/-! ### Numbers and contents -/

theorem varintLength_eq (n : Nat) : varintLength n = (writeVarint n).length := by
  fun_induction varintLength n with
  | case1 n h => rw [writeVarint_of_lt h, List.length_singleton]
  | case2 n h ih => rw [writeVarint_of_le (Nat.not_lt.1 h), List.length_cons, ih]

theorem keyLength_eq (number : Nat) (wireType : WireType) :
    keyLength number wireType = (writeKey number wireType).length :=
  varintLength_eq _

theorem sizedLength_eq (number : Nat) (content : Bytes) :
    sizedLength number content.length =
      (writeKey number .lengthDelimited ++ writeSized content).length := by
  rw [sizedLength, keyLength_eq, varintLength_eq, writeSized, List.length_append,
    List.length_append, Nat.add_assoc]

/-- Lengths of items add up to the length of all of them. -/
theorem totalLength_eq {α : Type} {length : α → Nat} {write : α → Bytes} {items : List α}
    (h : ∀ a, length a = (write a).length) :
    totalLength length items = (items.flatMap write).length := by
  induction items with
  | nil => rfl
  | cons a items ih =>
    rw [List.flatMap_cons, List.length_append, ← ih, ← h a]
    rfl

theorem Numeric.totalLength_writeAll {β : Type} (numeric : Numeric β) (values : List β) :
    totalLength (fun value ↦ varintLength (numeric.toWord value)) values =
      (numeric.writeAll values).length :=
  totalLength_eq fun _ ↦ varintLength_eq _

/-! ### All shapes -/

mutual

/-- The length of a field is that of what is written of it. -/
theorem Kind.length_eq {β : Type} : (kind : Kind β) → (number : Nat) → (value : β) →
    kind.length number value = (kind.write number value).length
  | .number numeric, number, value => by
    rw [Kind.length, Kind.write]
    split
    · rfl
    · rw [List.length_append, keyLength_eq, varintLength_eq]
  | .text textual, number, value => by
    rw [Kind.length, Kind.write]
    by_cases hempty : textual.toBytes value = []
    · rw [hempty]
      rfl
    · simp [hempty, sizedLength_eq]
  | .numbers numeric, number, values => by
    rw [Kind.length, Kind.write]
    split
    · rfl
    · rw [numeric.totalLength_writeAll, sizedLength_eq]
  | .texts textual, number, values => by
    rw [Kind.length, Kind.write]
    exact totalLength_eq fun _ ↦ sizedLength_eq _ _
  | .message shape, number, none => rfl
  | .message shape, number, some m => by
    rw [Kind.length, Kind.write, Shape.encodedLength_eq shape m, sizedLength_eq]
  | .messages shape, number, values => by
    rw [Kind.length, Kind.write]
    refine totalLength_eq fun m ↦ ?_
    rw [Shape.encodedLength_eq shape m, sizedLength_eq]

/-- The length of a row is that of what is written of it. -/
theorem Fields.length_eq {ρ : Type} : (fields : Fields ρ) → (row : ρ) →
    fields.length row = (fields.write row).length
  | .nil, () => rfl
  | .cons number _ kind rest, (value, row) => by
    rw [Fields.length, Fields.write, List.length_append, Kind.length_eq kind number value,
      Fields.length_eq rest row]

/-- The length of a message is that of its canonical form. -/
theorem Shape.encodedLength_eq {α : Type} : (shape : Shape α) → (m : α) →
    shape.encodedLength m = (shape.encode m).length
  | .mk _ fields _ unpack _ _, m => Fields.length_eq fields (unpack m)

end

end ChainRecord.Wire
