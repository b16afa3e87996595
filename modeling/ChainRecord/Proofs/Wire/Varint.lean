import ChainRecord.Wire.Varint
import Mathlib.Algebra.Group.Nat.Defs

/-!
# Reading numbers back

The shortest form of a number of sixty-four bits is read back, whatever follows it. In any form,
what is read of a number is a front of the bytes that is not empty, and what follows that front does
not matter (`readVarint_split`).
-/

namespace ChainRecord.Wire

theorem writeVarint_of_lt {n : Nat} (h : n < 128) : writeVarint n = [UInt8.ofNat n] := by
  rw [writeVarint, if_pos h]

theorem writeVarint_of_le {n : Nat} (h : 128 ≤ n) :
    writeVarint n = UInt8.ofNat (n % 128 + 128) :: writeVarint (n / 128) := by
  rw [writeVarint, if_neg (by omega)]

@[simp]
theorem writeVarint_ne_nil (n : Nat) : writeVarint n ≠ [] := by
  by_cases h : n < 128
  · simp [writeVarint_of_lt h]
  · simp [writeVarint_of_le (Nat.not_lt.1 h)]

/-- A number below `top * 128 ^ count` takes at most `count + 1` groups of seven bits, the last of
them below `top` if all are taken. -/
theorem readVarintWithin_writeVarint {top count n : Nat} (htop : top ≤ 128)
    (h : n < top * 128 ^ count) (rest : Bytes) :
    readVarintWithin top (count + 1) (writeVarint n ++ rest) = some (n, rest) := by
  induction count generalizing n with
  | zero =>
    have hn : n < 128 := by omega
    rw [writeVarint_of_lt hn, List.singleton_append, readVarintWithin]
    have hbyte : (UInt8.ofNat n).toNat = n := by rw [UInt8.toNat_ofNat']; omega
    rw [hbyte, if_pos hn, if_neg (by omega)]
  | succ count ih =>
    by_cases hn : n < 128
    · rw [writeVarint_of_lt hn, List.singleton_append, readVarintWithin]
      have hbyte : (UInt8.ofNat n).toNat = n := by rw [UInt8.toNat_ofNat']; omega
      rw [hbyte, if_pos hn, if_neg (by omega)]
    · rw [writeVarint_of_le (Nat.not_lt.1 hn), List.cons_append, readVarintWithin]
      have hbyte : (UInt8.ofNat (n % 128 + 128)).toNat = n % 128 + 128 :=
        by rw [UInt8.toNat_ofNat']; omega
      have hdiv : n / 128 < top * 128 ^ count := by
        rw [Nat.div_lt_iff_lt_mul (by decide), Nat.mul_assoc, ← Nat.pow_succ]
        exact h
      rw [hbyte, if_neg (by omega), ih hdiv, Option.map_some]
      have hvalue : n % 128 + 128 - 128 + 128 * (n / 128) = n := by omega
      simp only [hvalue]

/-- A number of sixty-four bits is read back. -/
theorem readVarint_writeVarint {n : Nat} (h : n < 2 ^ 64) (rest : Bytes) :
    readVarint (writeVarint n ++ rest) = some (n, rest) :=
  readVarintWithin_writeVarint (by decide) (by omega) rest

/-- What is read is a front of the bytes, and is read whatever follows that front. -/
theorem readVarintWithin_split {top count n : Nat} {bytes rest : Bytes}
    (h : readVarintWithin top count bytes = some (n, rest)) :
    ∃ front, front ≠ [] ∧ bytes = front ++ rest ∧
      ∀ tail, readVarintWithin top count (front ++ tail) = some (n, tail) := by
  induction count generalizing bytes n with
  | zero => simp [readVarintWithin] at h
  | succ count ih =>
    cases bytes with
    | nil => simp [readVarintWithin] at h
    | cons b bytes =>
      rw [readVarintWithin] at h
      by_cases hb : b.toNat < 128
      · rw [if_pos hb] at h
        by_cases htop : count = 0 ∧ top ≤ b.toNat
        · rw [if_pos htop] at h
          exact absurd h (by simp)
        · rw [if_neg htop] at h
          obtain ⟨rfl, rfl⟩ := Prod.mk.injEq .. ▸ Option.some.inj h
          refine ⟨[b], List.cons_ne_nil b [], rfl, fun tail ↦ ?_⟩
          rw [List.singleton_append, readVarintWithin, if_pos hb, if_neg htop]
      · rw [if_neg hb] at h
        obtain ⟨⟨k, r⟩, hk, hkr⟩ := Option.map_eq_some_iff.1 h
        obtain ⟨rfl, rfl⟩ := Prod.mk.injEq .. ▸ hkr
        obtain ⟨front, -, rfl, hfront⟩ := ih hk
        refine ⟨b :: front, List.cons_ne_nil b front, rfl, fun tail ↦ ?_⟩
        rw [List.cons_append, readVarintWithin, if_neg hb, hfront, Option.map_some]

theorem readVarint_split {n : Nat} {bytes rest : Bytes} (h : readVarint bytes = some (n, rest)) :
    ∃ front, front ≠ [] ∧ bytes = front ++ rest ∧
      ∀ tail, readVarint (front ++ tail) = some (n, tail) :=
  readVarintWithin_split h

end ChainRecord.Wire
