import ChainRecord.Decimal
import Mathlib.Algebra.Field.Rat
import Mathlib.Data.Int.Cast.Lemmas
import Mathlib.Algebra.Order.Ring.Rat
import Mathlib.Algebra.Order.Field.Power
import Mathlib.Tactic.Common
import Mathlib.Tactic.NormNum
import Mathlib.Tactic.Ring

/-!
# Values of decimals

One number has many decimals: `5`, `5.0` and `5.00` differ in their scales. What is said of amounts
is said of their values, which are rational numbers.
-/

namespace ChainRecord.Decimal

/-- The number that a decimal stands for. -/
def value (x : Decimal) : ℚ :=
  x.coefficient * (10 : ℚ) ^ (-x.scale)

@[simp]
theorem value_ofInt (n : Int) : (ofInt n).value = n := by
  simp [value, ofInt]

@[simp]
theorem value_zero : zero.value = 0 := by
  simp [zero]

/-- Only the coefficient has a sign. -/
theorem value_nonneg_iff {x : Decimal} : 0 ≤ x.value ↔ 0 ≤ x.coefficient := by
  have hpower : (0 : ℚ) < 10 ^ (-x.scale) := zpow_pos (by norm_num) _
  rw [value, mul_nonneg_iff_of_pos_right hpower, Int.cast_nonneg_iff]

/-- A coefficient may be taken at a larger scale. -/
theorem value_mul_tenTo (n : Int) {low high : Int} (h : low ≤ high) :
    value ⟨n * tenTo (high - low).toNat, high⟩ = value ⟨n, low⟩ := by
  have hten : (10 : ℚ) ≠ 0 := by norm_num
  have hpower : ((tenTo (high - low).toNat : ℤ) : ℚ) = 10 ^ (high - low) := by
    rw [tenTo, Nat.pow_eq, ← Int.toNat_of_nonneg (Int.sub_nonneg.2 h), zpow_natCast]
    push_cast
    rfl
  calc (n * tenTo (high - low).toNat : ℤ) * (10 : ℚ) ^ (-high)
      = n * (10 ^ (high - low) * 10 ^ (-high)) := by rw [Int.cast_mul, hpower, mul_assoc]
    _ = n * 10 ^ (-low) := by rw [← zpow_add₀ hten]; congr 2; ring

/-- Nothing is rounded in a sum. -/
@[simp]
theorem value_add (x y : Decimal) : (x + y).value = x.value + y.value := by
  have hsum (n m scale : Int) : value ⟨n + m, scale⟩ = value ⟨n, scale⟩ + value ⟨m, scale⟩ := by
    simp only [value, Int.cast_add, add_mul]
  show (add x y).value = _
  unfold add
  by_cases h : x.scale ≤ y.scale
  · rw [if_pos h, hsum, value_mul_tenTo x.coefficient h]
  · rw [if_neg h, hsum, value_mul_tenTo y.coefficient (le_of_not_ge h)]

@[simp]
theorem value_sum (xs : List Decimal) : (sum xs).value = (xs.map value).sum := by
  have hfold (x : Decimal) : (xs.foldl add x).value = x.value + (xs.map value).sum := by
    induction xs generalizing x with
    | nil => simp
    | cons y xs ih =>
      have hadd : (add x y).value = x.value + y.value := value_add x y
      rw [List.foldl_cons, ih, hadd, List.map_cons, List.sum_cons, add_assoc]
  rw [sum, hfold, value_zero, zero_add]

/-- Integers stay at one scale, so their sum is one decimal. -/
theorem ofInt_add (n n' : Int) : ofInt n + ofInt n' = ofInt (n + n') := by
  show add (ofInt n) (ofInt n') = ofInt (n + n')
  simp [add, ofInt, tenTo]

theorem sum_map_ofInt (amounts : List Int) : sum (amounts.map ofInt) = ofInt amounts.sum := by
  have hfold (total : Int) :
      (amounts.map ofInt).foldl add (ofInt total) = ofInt (total + amounts.sum) := by
    induction amounts generalizing total with
    | nil => simp
    | cons n amounts ih =>
      have hadd : add (ofInt total) (ofInt n) = ofInt (total + n) := ofInt_add total n
      rw [List.map_cons, List.foldl_cons, hadd, ih, List.sum_cons, Int.add_assoc]
  rw [sum, zero, hfold, Int.zero_add]

/-- Shifting the point is multiplying. -/
@[simp]
theorem value_timesPowerOfTen (x : Decimal) (exponent : Nat) :
    (x.timesPowerOfTen exponent).value = x.value * 10 ^ exponent := by
  have hten : (10 : ℚ) ≠ 0 := by norm_num
  have hscale : -(x.scale - exponent) = -x.scale + exponent := by ring
  rw [value, value, timesPowerOfTen, hscale, zpow_add₀ hten, zpow_natCast, mul_assoc]

end ChainRecord.Decimal
