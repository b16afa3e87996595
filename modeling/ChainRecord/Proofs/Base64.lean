import ChainRecord.Bytes.Base64
import Mathlib.Logic.Function.Basic
import Mathlib.Tactic.Common

/-!
# Reading base 64 back

What is written of a byte string is read back as that byte string (`decode?_encode`), so no two byte
strings are written alike. The groups are read one by one: a symbol stands for its number, none is
taken for padding, and the bits of a group are those of its bytes.

Whatever is read, three bytes take four characters, and each of these is a symbol or padding
(`ofSymbols?_eq_some`).
-/

namespace ChainRecord.Base64

/-! ### Symbols -/

/-- A symbol is read as its number. -/
theorem value?_symbol {n : Nat} (h : n < 64) : value? (symbol n) = some n := by
  have hall : ∀ n : Fin 64, value? (symbol n) = some n.val := by decide +kernel
  exact hall ⟨n, h⟩

/-- No symbol is padding. -/
theorem symbol_ne_padding {n : Nat} (h : n < 64) : symbol n ≠ '=' := by
  have hpadding : value? '=' = none := by decide
  intro heq
  rw [← heq, value?_symbol h] at hpadding
  exact nomatch hpadding

/-- A byte is put together from its number. -/
theorem ofNat_eq_of_eq_toNat {n : Nat} {a : UInt8} (h : n = a.toNat) : UInt8.ofNat n = a := by
  rw [h, UInt8.ofNat_toNat]

/-! ### Groups -/

/-- A group that does not end in padding is three bytes. -/
theorem ofSymbols?_group {x y z w : Nat} (hx : x < 64) (hy : y < 64) (hz : z < 64) (hw : w < 64)
    (rest : List Char) :
    ofSymbols? (symbol x :: symbol y :: symbol z :: symbol w :: rest) =
      (ofSymbols? rest).map fun bytes ↦
        UInt8.ofNat (4 * x + y / 16) :: UInt8.ofNat (y % 16 * 16 + z / 4) ::
          UInt8.ofNat (z % 4 * 64 + w) :: bytes := by
  rw [ofSymbols?]
  · rw [value?_symbol hx, value?_symbol hy, value?_symbol hz, value?_symbol hw]
    cases ofSymbols? rest <;> rfl
  · exact fun hpadding ↦ absurd hpadding (symbol_ne_padding hw)

/-- A last group of one byte. -/
theorem ofLastGroup?_one {x y : Nat} (hx : x < 64) (hy : y < 64) (hfill : y % 16 = 0) :
    ofLastGroup? (symbol x) (symbol y) '=' = some [UInt8.ofNat (4 * x + y / 16)] := by
  rw [ofLastGroup?, if_pos rfl, value?_symbol hx, value?_symbol hy]
  exact if_pos hfill

/-- A last group of two bytes. -/
theorem ofLastGroup?_two {x y z : Nat} (hx : x < 64) (hy : y < 64) (hz : z < 64)
    (hfill : z % 4 = 0) :
    ofLastGroup? (symbol x) (symbol y) (symbol z) =
      some [UInt8.ofNat (4 * x + y / 16), UInt8.ofNat (y % 16 * 16 + z / 4)] := by
  rw [ofLastGroup?, if_neg (symbol_ne_padding hz), value?_symbol hx, value?_symbol hy,
    value?_symbol hz]
  exact if_pos hfill

/-! ### Byte strings -/

theorem ofSymbols?_symbols (bytes : Bytes) : ofSymbols? (symbols bytes) = some bytes := by
  induction bytes using symbols.induct with
  | case1 => rfl
  | case2 a =>
    have ha := a.toNat_lt
    rw [symbols, ofSymbols?, ofLastGroup?_one (by omega) (by omega) (by omega),
      ofNat_eq_of_eq_toNat (a := a) (by omega)]
  | case3 a b =>
    have ha := a.toNat_lt
    have hb := b.toNat_lt
    rw [symbols, ofSymbols?, ofLastGroup?_two (by omega) (by omega) (by omega) (by omega),
      ofNat_eq_of_eq_toNat (a := a) (by omega), ofNat_eq_of_eq_toNat (a := b) (by omega)]
  | case4 a b c rest ih =>
    have ha := a.toNat_lt
    have hb := b.toNat_lt
    have hc := c.toNat_lt
    rw [symbols, ofSymbols?_group (by omega) (by omega) (by omega) (by omega), ih, Option.map_some,
      ofNat_eq_of_eq_toNat (a := a) (by omega), ofNat_eq_of_eq_toNat (a := b) (by omega),
      ofNat_eq_of_eq_toNat (a := c) (by omega)]

/-- **What is written of a byte string is read back as it.** -/
theorem decode?_encode (bytes : Bytes) : decode? (encode bytes) = some bytes := by
  rw [decode?, encode, String.toList_ofList, ofSymbols?_symbols]

theorem encode_injective : Function.Injective encode := fun bytes bytes' h ↦ by
  have hread := congrArg decode? h
  rw [decode?_encode, decode?_encode] at hread
  exact Option.some.inj hread

/-! ### Lengths -/

/-- A last group has two bytes at most, and no other characters. -/
theorem ofLastGroup?_eq_some {p q r : Char} {bytes : Bytes} (h : ofLastGroup? p q r = some bytes) :
    bytes.length ≤ 2 ∧ ∀ c ∈ [p, q, r], c = '=' ∨ (value? c).isSome = true := by
  rw [ofLastGroup?] at h
  split_ifs at h with hpadding
  · split at h
    · rename_i hx hy
      split_ifs at h
      cases h
      simp [hpadding, hx, hy]
    · cases h
  · split at h
    · rename_i hx hy hz
      split_ifs at h
      cases h
      simp [hx, hy, hz]
    · cases h

/-- Three bytes are read from four symbols, and nothing else is read. -/
theorem ofSymbols?_eq_some {cs : List Char} {bytes : Bytes} (h : ofSymbols? cs = some bytes) :
    4 * bytes.length ≤ 3 * cs.length ∧ ∀ c ∈ cs, c = '=' ∨ (value? c).isSome = true := by
  induction cs using ofSymbols?.induct generalizing bytes with
  | case1 => cases h; simp
  | case2 p q r =>
    obtain ⟨hlength, hsymbols⟩ := ofLastGroup?_eq_some h
    refine ⟨by simp only [List.length_cons, List.length_nil]; omega, ?_⟩
    simpa [or_assoc] using hsymbols
  | case3 p q r s rest hs x y z w bytes' hrest hw hz hy hx ih =>
    rw [ofSymbols?, hx, hy, hz, hw, hrest] at h
    · obtain rfl := Option.some.inj h
      obtain ⟨hlength, hsymbols⟩ := ih hrest
      refine ⟨by simp only [List.length_cons]; omega, ?_⟩
      simpa [hx, hy, hz, hw] using hsymbols
    · exact hs
  | case4 p q r s rest hs hnone ih =>
    rw [ofSymbols?] at h
    · split at h
      · rename_i hx hy hz hw hrest
        exact (hnone _ _ _ _ _ hx hy hz hw hrest).elim
      · cases h
    · exact hs
  | case5 cs hnil hlast hgroup =>
    rw [ofSymbols?] at h
    · cases h
    · exact hnil
    · exact hlast
    · exact hgroup

end ChainRecord.Base64
