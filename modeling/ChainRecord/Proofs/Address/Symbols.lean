import ChainRecord.Address.Symbols
import Mathlib.Tactic.Common

/-!
# Bytes and symbols of five bits

Bytes that are written as symbols are read back from them (`bytesOfSymbols_symbolsOfBytes`). Both
directions go through the bits. Writing appends fewer than five zeros to them, to fill the last
symbol, and reading drops whatever is left behind the last whole byte; so it does not matter what
was appended, only that it is not a whole byte (`bytesOfBits_flatMap_append`).

The characters of the symbols are told apart from each other and from the separator, and none of
them has a case other than lower.
-/

namespace ChainRecord.Address

/-! ### Characters -/

@[simp] theorem charSymbol?_symbolChar : ∀ s : Symbol, charSymbol? (symbolChar s) = some s := by
  decide

theorem symbolChar_ne_separator : ∀ s : Symbol, symbolChar s ≠ '1' := by
  decide

theorem separator_not_mem_map (symbols : List Symbol) : '1' ∉ symbols.map symbolChar := by
  intro hmem
  obtain ⟨s, -, hs⟩ := List.mem_map.1 hmem
  exact symbolChar_ne_separator s hs

theorem isUpper_symbolChar : ∀ s : Symbol, (symbolChar s).isUpper = false := by
  decide

theorem mapM_charSymbol?_map_symbolChar (symbols : List Symbol) :
    (symbols.map symbolChar).mapM charSymbol? = some symbols := by
  induction symbols with
  | nil => rfl
  | cons s symbols ih => simp [ih]

/-! ### Bits -/

theorem symbolBits_ofBoolListBE : ∀ a b c d e : Bool,
    symbolBits (BitVec.ofBoolListBE [a, b, c, d, e]) = [a, b, c, d, e] := by
  decide

theorem ofBoolListBE_byteBits (byte : UInt8) :
    UInt8.ofBitVec (BitVec.ofBoolListBE (byteBits byte)) = byte := by
  have hall : ∀ bits : BitVec 8,
      UInt8.ofBitVec (BitVec.ofBoolListBE (byteBits (.ofBitVec bits))) = .ofBitVec bits := by
    decide +kernel
  exact hall byte.toBitVec

/-- Filling the last symbol appends fewer than five bits. -/
theorem flatMap_symbolBits_symbolsOfBits (bits : List Bool) :
    ∃ fill, (symbolsOfBits bits).flatMap symbolBits = bits ++ fill ∧ fill.length < 5 := by
  induction bits using symbolsOfBits.induct with
  | case1 => exact ⟨[], rfl, by decide⟩
  | case2 a => exact ⟨_, symbolBits_ofBoolListBE a false false false false, by decide⟩
  | case3 a b => exact ⟨_, symbolBits_ofBoolListBE a b false false false, by decide⟩
  | case4 a b c => exact ⟨_, symbolBits_ofBoolListBE a b c false false, by decide⟩
  | case5 a b c d => exact ⟨_, symbolBits_ofBoolListBE a b c d false, by decide⟩
  | case6 a b c d e rest ih =>
    obtain ⟨fill, hrest, hfill⟩ := ih
    refine ⟨fill, ?_, hfill⟩
    rw [symbolsOfBits, List.flatMap_cons, hrest, symbolBits_ofBoolListBE]
    rfl

/-- Bits that are not a whole byte are dropped from the end. -/
theorem bytesOfBits_of_length_lt {bits : List Bool} (h : bits.length < 8) :
    bytesOfBits bits = [] := by
  unfold bytesOfBits
  split
  · simp only [List.length_cons] at h
    omega
  · rfl

theorem bytesOfBits_flatMap_append (bytes : Bytes) {fill : List Bool} (h : fill.length < 8) :
    bytesOfBits (bytes.flatMap byteBits ++ fill) = bytes := by
  induction bytes with
  | nil => exact bytesOfBits_of_length_lt h
  | cons byte bytes ih =>
    have hbyte : bytesOfBits ((byte :: bytes).flatMap byteBits ++ fill) =
        UInt8.ofBitVec (BitVec.ofBoolListBE (byteBits byte)) ::
          bytesOfBits (bytes.flatMap byteBits ++ fill) := rfl
    rw [hbyte, ofBoolListBE_byteBits, ih]

/-- **Bytes are read back from their symbols.** -/
theorem bytesOfSymbols_symbolsOfBytes (bytes : Bytes) :
    bytesOfSymbols (symbolsOfBytes bytes) = bytes := by
  obtain ⟨fill, hbits, hfill⟩ := flatMap_symbolBits_symbolsOfBits (bytes.flatMap byteBits)
  rw [bytesOfSymbols, symbolsOfBytes, hbits]
  exact bytesOfBits_flatMap_append bytes (Nat.lt_of_lt_of_le hfill (by decide))

end ChainRecord.Address
