import ChainRecord.Proofs.DecimalValue
import ChainRecord.Proofs.Lists
import ChainRecord.Proofs.NumeralValue
import ChainRecord.Proofs.ReadFrom
import ChainRecord.Transaction.FeeAmount
import Mathlib.Algebra.BigOperators.Ring.Finset
import Mathlib.Data.Finset.Card
import Mathlib.Data.Finset.Dedup

/-!
# What a fee amounts to

The amount of a fee is said without reading it (`IsFee`): which denominations the coins are of
decides first, then whether fees are paid in the one denomination, then the first amount that is no
integer, and only a fee with none of these faults is summed, exactly. Every list of coins is read as
that relation says, and the order of the coins has no say in it but for which of several malformed
amounts is named (`feeAmount_exact`). The relation leaves no choice (`IsFee.alike_feeAmount`).

Nothing is said of amounts as decimals but their values, so a fee in display units is compared with
one in native units by what they are worth.
-/

namespace ChainRecord.Transaction

open Numeral

variable {settings : Settings} {coins coins' : List Coin} {denom : String}

/-! ### Denominations of coins -/

/-- How many denominations coins are of. -/
def denominationCount (coins : List Coin) : Nat :=
  (coins.map (·.denom)).toFinset.card

/-- There are coins, and all of them are of one denomination. -/
def AreOf (denom : String) (coins : List Coin) : Prop :=
  coins ≠ [] ∧ ∀ coin ∈ coins, coin.denom = denom

theorem mem_denominationsOf_iff :
    denom ∈ denominationsOf coins ↔ ∃ coin ∈ coins, coin.denom = denom := by
  rw [denominationsOf, List.mem_eraseDups, List.mem_map]

theorem length_denominationsOf (coins : List Coin) :
    (denominationsOf coins).length = denominationCount coins := by
  have hsame : (denominationsOf coins).toFinset = (coins.map (·.denom)).toFinset := by
    ext denom
    rw [List.mem_toFinset, List.mem_toFinset, denominationsOf, List.mem_eraseDups]
  rw [denominationCount, ← hsame]
  exact (List.toFinset_card_of_nodup (List.nodup_eraseDups _)).symm

theorem denominationsOf_eq_singleton_iff : denominationsOf coins = [denom] ↔ AreOf denom coins := by
  constructor
  · intro h
    have hmem (other : String) : (∃ coin ∈ coins, coin.denom = other) ↔ other = denom := by
      rw [← mem_denominationsOf_iff, h, List.mem_singleton]
    obtain ⟨coin, hcoin, -⟩ := (hmem denom).2 rfl
    exact ⟨List.ne_nil_of_mem hcoin, fun coin hcoin ↦ (hmem _).1 ⟨coin, hcoin, rfl⟩⟩
  · rintro ⟨hne, hall⟩
    obtain ⟨first, hfirst⟩ := List.exists_mem_of_ne_nil coins hne
    have hmem (other : String) : other ∈ denominationsOf coins ↔ other ∈ [denom] := by
      rw [mem_denominationsOf_iff, List.mem_singleton]
      constructor
      · rintro ⟨coin, hcoin, rfl⟩
        exact hall coin hcoin
      · rintro rfl
        exact ⟨first, hfirst, hall first hfirst⟩
    exact List.perm_singleton.1
      ((List.perm_ext_iff_of_nodup (List.nodup_eraseDups _) (List.nodup_singleton denom)).2 hmem)

/-- Coins are none, all of one denomination, or of several. -/
theorem denominations_cases (coins : List Coin) :
    coins = [] ∨ (∃ denom, AreOf denom coins) ∨ 2 ≤ denominationCount coins := by
  rcases h : denominationsOf coins with _ | ⟨denom, _ | ⟨other, rest⟩⟩
  · left
    by_contra hne
    obtain ⟨coin, hcoin⟩ := List.exists_mem_of_ne_nil coins hne
    exact absurd (mem_denominationsOf_iff.2 ⟨coin, hcoin, rfl⟩) (by simp [h])
  · exact Or.inr (Or.inl ⟨denom, denominationsOf_eq_singleton_iff.1 h⟩)
  · right
    right
    rw [← length_denominationsOf, h]
    simp

theorem AreOf.perm (h : AreOf denom coins) (hperm : coins.Perm coins') : AreOf denom coins' :=
  ⟨fun hnil ↦ h.1 (List.perm_nil.1 (hnil ▸ hperm)),
    fun coin hcoin ↦ h.2 coin (hperm.mem_iff.2 hcoin)⟩

theorem denominationCount_perm (hperm : coins.Perm coins') :
    denominationCount coins = denominationCount coins' := by
  rw [denominationCount, denominationCount, List.toFinset_eq_of_perm _ _ (hperm.map (·.denom))]

/-! ### Units -/

/-- Fees may be paid in a denomination. -/
def IsFeeDenom (settings : Settings) (denom : String) : Prop :=
  denom = settings.nativeDenom ∨ denom = settings.displayDenom

/-- How many native units one unit of a denomination is worth. A denomination that is both native
and shown is native. -/
def unitOf (settings : Settings) (denom : String) : Nat :=
  if denom = settings.nativeDenom then 1 else 10 ^ settings.displayDenomExponent.toNat

theorem feeExponent_of_isFeeDenom (h : IsFeeDenom settings denom) :
    ∃ exponent, feeExponent settings denom = .ok exponent ∧
      10 ^ exponent = unitOf settings denom := by
  unfold feeExponent unitOf
  by_cases hnative : denom = settings.nativeDenom
  · exact ⟨0, by rw [if_pos hnative], by rw [if_pos hnative, pow_zero]⟩
  · have hdisplay : denom = settings.displayDenom := h.resolve_left hnative
    exact ⟨_, by rw [if_neg hnative, if_pos hdisplay], by rw [if_neg hnative]⟩

theorem feeExponent_of_not_isFeeDenom (h : ¬ IsFeeDenom settings denom) :
    feeExponent settings denom = .error (.unsupportedDenom denom) := by
  obtain ⟨hnative, hdisplay⟩ := not_or.1 h
  rw [feeExponent, if_neg hnative, if_neg hdisplay]

/-! ### Amounts -/

/-- Coins are written with amounts, one for each in order. -/
def AreAmounts (coins : List Coin) (amounts : List Int) : Prop :=
  List.Forall₂ (fun coin n ↦ IsWritten coin.amount.toList n) coins amounts

/-- A coin is the first one whose amount is no integer. -/
def IsFirstMalformed (coin : Coin) (coins : List Coin) : Prop :=
  ∃ i, coins[i]? = some coin ∧ ¬ IsInteger coin.amount.toList ∧
    ∀ (j : Nat) (earlier : Coin), j < i → coins[j]? = some earlier →
      IsInteger earlier.amount.toList

theorem coinAmount_eq_ok_iff (coin : Coin) (x : Decimal) :
    coinAmount coin = .ok x ↔ ∃ n, IsWritten coin.amount.toList n ∧ Decimal.ofInt n = x := by
  simp only [← integerOfChars?_eq_some_iff]
  rw [coinAmount, integer?]
  cases integerOfChars? coin.amount.toList <;> simp

theorem coinAmount_eq_error_iff {coin : Coin} {e : FeeError} :
    coinAmount coin = .error e ↔
      ¬ IsInteger coin.amount.toList ∧ .invalidAmount coin.amount = e := by
  rw [← integerOfChars?_isSome_iff, coinAmount, integer?]
  cases integerOfChars? coin.amount.toList <;> simp

theorem fails_coinAmount_iff {coin : Coin} :
    Fails (coinAmount coin) ↔ ¬ IsInteger coin.amount.toList := by
  simp [Fails, coinAmount_eq_error_iff]

theorem mapM_coinAmount_eq_ok_iff {xs : List Decimal} :
    coins.mapM coinAmount = .ok xs ↔
      ∃ amounts, AreAmounts coins amounts ∧ amounts.map Decimal.ofInt = xs :=
  listMapM_eq_ok_iff coinAmount_eq_ok_iff

theorem mapM_coinAmount_eq_error_iff {e : FeeError} :
    coins.mapM coinAmount = .error e ↔
      ∃ coin, IsFirstMalformed coin coins ∧ .invalidAmount coin.amount = e := by
  rw [listMapM_eq_error_iff]
  simp only [coinAmount_eq_error_iff, fails_coinAmount_iff, not_not]
  constructor
  · rintro ⟨i, coin, hcoin, ⟨hmalformed, he⟩, hbefore⟩
    exact ⟨coin, ⟨i, hcoin, hmalformed, hbefore⟩, he⟩
  · rintro ⟨coin, ⟨i, hcoin, hmalformed, hbefore⟩, he⟩
    exact ⟨i, coin, hcoin, ⟨hmalformed, he⟩, hbefore⟩

/-- Coins in another order are written with the same amounts in another order. -/
theorem AreAmounts.perm {amounts : List Int} (h : AreAmounts coins amounts)
    (hperm : coins.Perm coins') : ∃ amounts', AreAmounts coins' amounts' ∧ amounts'.Perm amounts :=
  List.perm_comp_forall₂ hperm.symm h

theorem value_sum_ofInt (amounts : List Int) :
    (Decimal.sum (amounts.map Decimal.ofInt)).value = amounts.sum := by
  rw [Decimal.sum_map_ofInt, Decimal.value_ofInt]

/-- Shifting the point brings the sum to native units. -/
theorem value_sum_timesPowerOfTen (amounts : List Int) {exponent : Nat}
    (hunit : 10 ^ exponent = unitOf settings denom) :
    ((Decimal.sum (amounts.map Decimal.ofInt)).timesPowerOfTen exponent).value =
      amounts.sum * unitOf settings denom := by
  rw [Decimal.value_timesPowerOfTen, value_sum_ofInt, ← hunit]
  push_cast
  rfl

/-! ### What coins are read as -/

/-- What coins are read as, by the fault that decides. -/
inductive IsFee (settings : Settings) : List Coin → Except FeeError Decimal → Prop
  /-- No coins are no fee. -/
  | nothing : IsFee settings [] (.ok .zero)
  /-- Several denominations are counted. -/
  | ambiguous {coins : List Coin} : 2 ≤ denominationCount coins →
      IsFee settings coins (.error (.ambiguous (denominationCount coins)))
  /-- Another denomination is named, whatever the amounts are. -/
  | unsupported {coins : List Coin} {denom : String} : AreOf denom coins →
      ¬ IsFeeDenom settings denom → IsFee settings coins (.error (.unsupportedDenom denom))
  /-- The first malformed amount is named, whatever is behind it. -/
  | invalid {coins : List Coin} {denom : String} {coin : Coin} : AreOf denom coins →
      IsFeeDenom settings denom → IsFirstMalformed coin coins →
      IsFee settings coins (.error (.invalidAmount coin.amount))
  /-- Amounts are summed and brought to the native denomination, and nothing is rounded. -/
  | sum {coins : List Coin} {denom : String} {amounts : List Int} {fee : Decimal} :
      AreOf denom coins → IsFeeDenom settings denom → AreAmounts coins amounts →
      fee.value = amounts.sum * unitOf settings denom → IsFee settings coins (.ok fee)

/-- Errors of one kind, that differ at most in the malformed amount that they name. -/
inductive FeeError.SameKind : FeeError → FeeError → Prop
  /-- One number of denominations. -/
  | ambiguous (denominations : Nat) : SameKind (.ambiguous denominations) (.ambiguous denominations)
  /-- One denomination. -/
  | unsupportedDenom (denom : String) : SameKind (.unsupportedDenom denom) (.unsupportedDenom denom)
  /-- Any two amounts. -/
  | invalidAmount (text text' : String) : SameKind (.invalidAmount text) (.invalidAmount text')

theorem FeeError.SameKind.refl (e : FeeError) : SameKind e e := by
  cases e with
  | ambiguous denominations => exact .ambiguous denominations
  | unsupportedDenom denom => exact .unsupportedDenom denom
  | invalidAmount text => exact .invalidAmount text text

theorem feeAmount_of_areOf (h : AreOf denom coins) :
    feeAmount settings coins = (do
      let exponent ← feeExponent settings denom
      let amounts ← coins.mapM coinAmount
      .ok ((Decimal.sum amounts).timesPowerOfTen exponent)) := by
  rw [feeAmount, denominationsOf_eq_singleton_iff.2 h]

theorem feeAmount_of_two_le (h : 2 ≤ denominationCount coins) :
    feeAmount settings coins = .error (.ambiguous (denominationCount coins)) := by
  rw [← length_denominationsOf] at h ⊢
  rw [feeAmount]
  split
  next hnil => exact absurd h (by simp [hnil])
  next denom hsingle => exact absurd h (by simp [hsingle])
  next => rfl

theorem isFee_feeAmount (settings : Settings) (coins : List Coin) :
    IsFee settings coins (feeAmount settings coins) := by
  rcases denominations_cases coins with rfl | ⟨denom, hdenom⟩ | hseveral
  · exact .nothing
  · rw [feeAmount_of_areOf hdenom]
    by_cases hfee : IsFeeDenom settings denom
    · obtain ⟨exponent, hexponent, hunit⟩ := feeExponent_of_isFeeDenom hfee
      rw [hexponent]
      cases hamounts : coins.mapM coinAmount with
      | error e =>
        obtain ⟨coin, hfirst, rfl⟩ := mapM_coinAmount_eq_error_iff.1 hamounts
        exact .invalid hdenom hfee hfirst
      | ok xs =>
        obtain ⟨amounts, hwritten, rfl⟩ := mapM_coinAmount_eq_ok_iff.1 hamounts
        exact .sum hdenom hfee hwritten (value_sum_timesPowerOfTen amounts hunit)
    · rw [feeExponent_of_not_isFeeDenom hfee]
      exact .unsupported hdenom hfee
  · rw [feeAmount_of_two_le hseveral]
    exact .ambiguous hseveral

/-- Coins are read as one outcome, up to the scale that a fee is written with. -/
theorem IsFee.alike_feeAmount {outcome : Except FeeError Decimal}
    (h : IsFee settings coins outcome) :
    Alike Eq (fun fee fee' ↦ fee.value = fee'.value) outcome (feeAmount settings coins) := by
  cases h with
  | nothing => exact .ok rfl
  | ambiguous hseveral =>
    rw [feeAmount_of_two_le hseveral]
    exact .error rfl
  | unsupported hdenom hfee =>
    rw [feeAmount_of_areOf hdenom, feeExponent_of_not_isFeeDenom hfee]
    exact .error rfl
  | invalid hdenom hfee hfirst =>
    obtain ⟨exponent, hexponent, -⟩ := feeExponent_of_isFeeDenom hfee
    rw [feeAmount_of_areOf hdenom, hexponent,
      mapM_coinAmount_eq_error_iff.2 ⟨_, hfirst, rfl⟩]
    exact .error rfl
  | sum hdenom hfee hamounts hvalue =>
    obtain ⟨exponent, hexponent, hunit⟩ := feeExponent_of_isFeeDenom hfee
    rw [feeAmount_of_areOf hdenom, hexponent,
      mapM_coinAmount_eq_ok_iff.2 ⟨_, hamounts, rfl⟩]
    exact .ok (hvalue.trans (value_sum_timesPowerOfTen _ hunit).symm)

/-! ### The order of the coins -/

/-- Amounts in another order are malformed together or have the same sum. -/
theorem alike_mapM_coinAmount_perm (hperm : coins.Perm coins') :
    Alike FeeError.SameKind (fun xs xs' ↦ (Decimal.sum xs).value = (Decimal.sum xs').value)
      (coins.mapM coinAmount) (coins'.mapM coinAmount) := by
  cases h : coins.mapM coinAmount with
  | error e =>
    -- the order decides which amount is named, but not that one is
    have hfails : Fails (coins'.mapM coinAmount) := by
      obtain ⟨coin, hcoin, hmalformed⟩ := fails_listMapM_iff.1 ⟨e, h⟩
      exact fails_listMapM_iff.2 ⟨coin, hperm.mem_iff.1 hcoin, hmalformed⟩
    obtain ⟨e', h'⟩ := hfails
    obtain ⟨coin, -, rfl⟩ := mapM_coinAmount_eq_error_iff.1 h
    obtain ⟨coin', -, rfl⟩ := mapM_coinAmount_eq_error_iff.1 h'
    rw [h']
    exact .error (.invalidAmount _ _)
  | ok xs =>
    obtain ⟨amounts, hamounts, rfl⟩ := mapM_coinAmount_eq_ok_iff.1 h
    obtain ⟨amounts', hamounts', hsame⟩ := hamounts.perm hperm
    rw [mapM_coinAmount_eq_ok_iff.2 ⟨amounts', hamounts', rfl⟩]
    refine .ok ?_
    rw [value_sum_ofInt, value_sum_ofInt, hsame.sum_eq]

theorem alike_feeAmount_perm (settings : Settings) (hperm : coins.Perm coins') :
    Alike FeeError.SameKind (fun fee fee' ↦ fee.value = fee'.value)
      (feeAmount settings coins) (feeAmount settings coins') := by
  rcases denominations_cases coins with rfl | ⟨denom, hdenom⟩ | hseveral
  · rw [List.nil_perm.1 hperm]
    exact .ok rfl
  · rw [feeAmount_of_areOf hdenom, feeAmount_of_areOf (hdenom.perm hperm)]
    have hexponent : Alike FeeError.SameKind Eq (feeExponent settings denom)
        (feeExponent settings denom) := Alike.refl FeeError.SameKind.refl (fun _ ↦ rfl) _
    refine hexponent.bind fun exponent _ heq ↦ heq ▸ ?_
    refine (alike_mapM_coinAmount_perm hperm).bind fun xs xs' hsum ↦ .ok ?_
    rw [Decimal.value_timesPowerOfTen, Decimal.value_timesPowerOfTen, hsum]
  · rw [feeAmount_of_two_le hseveral, feeAmount_of_two_le (denominationCount_perm hperm ▸ hseveral),
      denominationCount_perm hperm]
    exact .error (.ambiguous _)

/-- **Fees are exact.** Coins are read as their denominations and their amounts say, with one fault
in front of the other, and in whatever order they are listed the fee is worth the same or is refused
for the same reason. -/
theorem feeAmount_exact (settings : Settings) (coins : List Coin) :
    IsFee settings coins (feeAmount settings coins) ∧
      ∀ coins', coins.Perm coins' →
        Alike FeeError.SameKind (fun fee fee' ↦ fee.value = fee'.value)
          (feeAmount settings coins) (feeAmount settings coins') :=
  ⟨isFee_feeAmount settings coins, fun _ hperm ↦ alike_feeAmount_perm settings hperm⟩

/-- Two coins in display units are worth what they are worth the other way round. -/
theorem feeAmount_exact_otherWayRound :
    let two : Coin := ⟨"tia", "+2"⟩
    let five : Coin := ⟨"tia", "-05"⟩
    feeAmount {} [two, five] = .ok ⟨-3, -6⟩ ∧
      IsFee {} [two, five] (feeAmount {} [two, five]) ∧
      Alike FeeError.SameKind (fun fee fee' ↦ fee.value = fee'.value)
        (feeAmount {} [two, five]) (feeAmount {} [five, two]) := by
  intro two five
  have hexact := feeAmount_exact {} [two, five]
  exact ⟨by decide +kernel, hexact.1, hexact.2 [five, two] (List.Perm.swap five two [])⟩

end ChainRecord.Transaction
