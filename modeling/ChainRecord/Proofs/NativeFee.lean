import ChainRecord.Proofs.FeeAmount
import ChainRecord.Proofs.NativeAmount

/-!
# Native amounts and fees

Coins are summed in two places, in messages and in fees, and the two sums have different rules. In a
message coins of other denominations do not count, and an empty amount is zero; a fee is of one
denomination, and an empty amount is no amount.

All that there is to know of the sum in a message is in the native coins (`nativeCoins`). It is that
of what they stand for, or the first of them that is malformed is named, and it may be taken part by
part (`nativeAmount_append`). On native coins that have amounts the rules are the same, so there the
two sums are equal or fail on the same coin (`alike_feeAmount_nativeAmount`). They are compared
amount by amount, since both are sums of a list that is read first.
-/

namespace ChainRecord

namespace Decimal

@[simp]
theorem timesPowerOfTen_zero (x : Decimal) : x.timesPowerOfTen 0 = x := by
  rw [timesPowerOfTen, Int.natCast_zero, Int.sub_zero]

end Decimal

namespace Reading

open Numeral Transaction

variable {settings : Settings} {coins coins' : List Coin}

/-- The coins of the native denomination, in order. -/
def nativeCoins (settings : Settings) (coins : List Coin) : List Coin :=
  coins.filter fun coin ↦ coin.denom = settings.nativeDenom

/-- A coin is the first one with an amount that is neither empty nor an integer. -/
def IsFirstMalformed (coin : Coin) (coins : List Coin) : Prop :=
  ∃ i, coins[i]? = some coin ∧ IsMalformedInteger coin.amount ∧
    ∀ (j : Nat) (earlier : Coin), j < i → coins[j]? = some earlier →
      ¬ IsMalformedInteger earlier.amount

/-- Two errors that name one amount. -/
inductive NamesSameAmount : FeeError → Inconsistency → Prop
  /-- The amount is malformed as an amount of a fee and as one in a message. -/
  | malformed (text : String) : NamesSameAmount (.invalidAmount text) (.invalidDecimal text)

/-! ### Sums of native coins -/

theorem nativeAmount_eq_mapM (settings : Settings) (coins : List Coin) :
    nativeAmount settings coins =
      ((nativeCoins settings coins).mapM fun coin ↦ moduleInteger coin.amount).map Decimal.sum :=
  addAmounts_eq_mapM _ _

theorem moduleInteger_eq_error_iff {text : String} {e : Inconsistency} :
    moduleInteger text = .error e ↔ IsMalformedInteger text ∧ e = .invalidDecimal text := by
  rw [← fails_moduleInteger_iff, moduleInteger]
  cases moduleInteger? text <;> simp [eq_comm]

/-- Every malformed native coin makes the sum fail. -/
theorem exists_nativeAmount_iff :
    (∃ x, nativeAmount settings coins = .ok x) ↔
      ∀ coin ∈ nativeCoins settings coins, coin.amount = "" ∨ IsInteger coin.amount.toList := by
  rw [← not_fails_iff, nativeAmount_eq_mapM, fails_map, fails_listMapM_iff, not_exists]
  refine forall_congr' fun coin ↦ ?_
  rw [fails_moduleInteger_iff, IsMalformedInteger, not_and, not_and, not_not, ← or_iff_not_imp_left]

/-- The first malformed native coin is named. -/
theorem nativeAmount_eq_error_iff {e : Inconsistency} :
    nativeAmount settings coins = .error e ↔
      ∃ coin, IsFirstMalformed coin (nativeCoins settings coins) ∧
        e = .invalidDecimal coin.amount := by
  rw [nativeAmount_eq_mapM, map_eq_error_iff, listMapM_eq_error_iff]
  simp only [moduleInteger_eq_error_iff, fails_moduleInteger_iff]
  constructor
  · rintro ⟨i, coin, hcoin, ⟨hmalformed, he⟩, hbefore⟩
    exact ⟨coin, ⟨i, hcoin, hmalformed, hbefore⟩, he⟩
  · rintro ⟨coin, ⟨i, hcoin, hmalformed, hbefore⟩, he⟩
    exact ⟨i, coin, hcoin, ⟨hmalformed, he⟩, hbefore⟩

/-- The sum of two lists is taken one after the other. -/
theorem nativeAmount_append (settings : Settings) (coins coins' : List Coin) :
    nativeAmount settings (coins ++ coins') = (do
      let x ← nativeAmount settings coins
      let x' ← nativeAmount settings coins'
      .ok (x + x')) := by
  have hcoins : nativeCoins settings (coins ++ coins') =
      nativeCoins settings coins ++ nativeCoins settings coins' := List.filter_append _ _
  rw [nativeAmount_eq_mapM, nativeAmount_eq_mapM, nativeAmount_eq_mapM, hcoins, List.mapM_append]
  cases h : (nativeCoins settings coins).mapM fun coin ↦ moduleInteger coin.amount with
  | error e => rfl
  | ok xs =>
    cases h' : (nativeCoins settings coins').mapM fun coin ↦ moduleInteger coin.amount with
    | error e => rfl
    | ok xs' =>
      -- all amounts are whole numbers, so there is one scale for both sums
      obtain ⟨amounts, -, rfl⟩ := mapM_moduleInteger_eq_ok_iff.1 h
      obtain ⟨amounts', -, rfl⟩ := mapM_moduleInteger_eq_ok_iff.1 h'
      show Except.ok (Decimal.sum (amounts.map .ofInt ++ amounts'.map .ofInt)) =
        .ok (Decimal.sum (amounts.map .ofInt) + Decimal.sum (amounts'.map .ofInt))
      rw [← List.map_append, Decimal.sum_map_ofInt, Decimal.sum_map_ofInt, Decimal.sum_map_ofInt,
        Decimal.ofInt_add, List.sum_append]

/-! ### Fees of native coins -/

/-- The two readers of an amount differ in the empty one alone. -/
theorem alike_coinAmount_moduleInteger {coin : Coin} (h : coin.amount ≠ "") :
    Alike NamesSameAmount Eq (coinAmount coin) (moduleInteger coin.amount) := by
  rw [coinAmount, moduleInteger, moduleInteger?, if_neg (by simpa using h)]
  cases integer? coin.amount with
  | none => exact .error (.malformed _)
  | some n => exact .ok rfl

/-- Native coins with amounts are worth the same as a fee. -/
theorem alike_feeAmount_nativeAmount
    (h : ∀ coin ∈ coins, coin.denom = settings.nativeDenom ∧ coin.amount ≠ "") :
    Alike NamesSameAmount Eq (feeAmount settings coins) (nativeAmount settings coins) := by
  by_cases hne : coins = []
  · subst hne
    exact .ok rfl
  · have hnative : AreOf settings.nativeDenom coins := ⟨hne, fun coin hcoin ↦ (h coin hcoin).1⟩
    have hexponent : feeExponent settings settings.nativeDenom = .ok 0 := if_pos rfl
    have hcoins : nativeCoins settings coins = coins :=
      List.filter_eq_self.2 fun coin hcoin ↦ decide_eq_true (h coin hcoin).1
    have hamounts := Alike.listMapM fun coin hcoin ↦
      alike_coinAmount_moduleInteger (h coin hcoin).2
    rw [feeAmount_of_areOf hnative, hexponent, nativeAmount_eq_mapM, hcoins]
    show Alike _ _ (coins.mapM coinAmount >>= fun xs ↦ .ok ((Decimal.sum xs).timesPowerOfTen 0)) _
    generalize coins.mapM coinAmount = amounts at hamounts ⊢
    generalize (coins.mapM fun coin ↦ moduleInteger coin.amount) = amounts' at hamounts ⊢
    cases hamounts with
    | error he => exact .error he
    | ok hsame =>
      obtain rfl := List.forall₂_eq_eq_eq ▸ hsame
      exact .ok (Decimal.timesPowerOfTen_zero _)

/-- **Native amounts are exact, and agree with fees.** The sum of coins depends on the native ones
alone. There is one if each of them is empty or an integer, and then it is the sum of what they
stand for; otherwise the first of them that is malformed is named. The sum of two lists is the sum
of their sums, with the error of the first list in front of that of the second. Coins that are all
native and have amounts are worth the same as a fee, and where they are no fee because of an amount,
the same amount is named in both errors. -/
theorem nativeAmount_exact (settings : Settings) (coins coins' : List Coin) :
    (nativeCoins settings coins = nativeCoins settings coins' →
      nativeAmount settings coins = nativeAmount settings coins') ∧
    ((∃ x, nativeAmount settings coins = .ok x) ↔
      ∀ coin ∈ nativeCoins settings coins, coin.amount = "" ∨ IsInteger coin.amount.toList) ∧
    (∀ x, nativeAmount settings coins = .ok x ↔
      ∃ amounts, AreAmounts (nativeCoins settings coins) amounts ∧ .ofInt amounts.sum = x) ∧
    (∀ e, nativeAmount settings coins = .error e ↔
      ∃ coin, IsFirstMalformed coin (nativeCoins settings coins) ∧
        e = .invalidDecimal coin.amount) ∧
    (nativeAmount settings (coins ++ coins') = do
      let x ← nativeAmount settings coins
      let x' ← nativeAmount settings coins'
      .ok (x + x')) ∧
    ((∀ coin ∈ coins, coin.denom = settings.nativeDenom ∧ coin.amount ≠ "") →
      Alike NamesSameAmount Eq (feeAmount settings coins) (nativeAmount settings coins)) := by
  refine ⟨fun hsame ↦ ?_, exists_nativeAmount_iff, fun x ↦ nativeAmount_eq_ok_iff,
    fun e ↦ nativeAmount_eq_error_iff, nativeAmount_append settings coins coins',
    alike_feeAmount_nativeAmount⟩
  rw [nativeAmount_eq_mapM, nativeAmount_eq_mapM, hsame]

/-- A malformed voucher does not matter, and a malformed native coin is named in both errors. -/
theorem nativeAmount_exact_voucher :
    let two : Coin := ⟨"utia", "+2"⟩
    let half : Coin := ⟨"utia", "0.5"⟩
    let voucher : Coin := ⟨"ibc/1", "many"⟩
    nativeAmount {} [two, voucher] = nativeAmount {} [two] ∧
      nativeAmount {} [two] = .ok (.ofInt 2) ∧
      Alike NamesSameAmount Eq (feeAmount {} [two, half]) (nativeAmount {} [two, half]) ∧
      nativeAmount {} [two, half] = .error (.invalidDecimal "0.5") := by
  intro two half voucher
  have hnative : nativeCoins {} [two, voucher] = nativeCoins {} [two] := rfl
  have hamounts : ∀ coin ∈ [two, half], coin.denom = "utia" ∧ coin.amount ≠ "" := by decide
  exact ⟨(nativeAmount_exact {} _ _).1 hnative, by decide,
    (nativeAmount_exact {} _ []).2.2.2.2.2 hamounts, by decide⟩

end Reading

end ChainRecord
