import ChainRecord.Proofs.DecimalValue
import ChainRecord.Proofs.NumeralValue
import ChainRecord.Proofs.ReadFrom
import ChainRecord.Reading.Inconsistency
import Mathlib.Algebra.BigOperators.Group.List.Basic

/-!
# Amounts of the native denomination

Coins of the native denomination are summed, and the others do not count. What the coins stand for
is said without reading them (`AreNativeAmounts`), one whole number for each of them in order, and
the sum is that of the numbers (`nativeAmount_eq_ok_iff`). All of it is done at one scale, so sums
are the same as decimals and not only by their values, however they are put together
(`nativeAmount_flatMap`).
-/

namespace ChainRecord

namespace Reading

open Decimal Numeral

variable {settings : Settings} {coins : List Coin}

/-- A text stands for an amount: the one it is written for, or nothing if it is empty. -/
inductive StandsFor : String → Int → Prop
  /-- The empty text. -/
  | nothing : StandsFor "" 0
  /-- A numeral. -/
  | written {text : String} {n : Int} : IsWritten text.toList n → StandsFor text n

theorem moduleInteger_eq_ok_iff {text : String} {x : Decimal} :
    moduleInteger text = .ok x ↔ ∃ n, StandsFor text n ∧ ofInt n = x := by
  have hread : moduleInteger text = .ok x ↔ moduleInteger? text = some x := by
    rw [moduleInteger]
    cases moduleInteger? text <;> simp
  rw [hread, moduleInteger?]
  by_cases hempty : text = ""
  · subst hempty
    show some zero = some x ↔ _
    constructor
    · intro h
      exact ⟨0, .nothing, Option.some.inj h⟩
    · rintro ⟨n, hn, rfl⟩
      cases hn with
      | nothing => rfl
      | written hwritten =>
        have hnone : integerOfChars? "".toList = none := rfl
        rw [← integerOfChars?_eq_some_iff, hnone] at hwritten
        cases hwritten
  · rw [if_neg (by simpa using hempty), integer?]
    simp only [Option.map_eq_some_iff, integerOfChars?_eq_some_iff]
    refine exists_congr fun n ↦ and_congr_left fun _ ↦ ⟨.written, fun hn ↦ ?_⟩
    cases hn with
    | nothing => exact absurd rfl hempty
    | written hwritten => exact hwritten

/-- Coins stand for amounts, one for each in order. -/
def AreAmounts (coins : List Coin) (amounts : List Int) : Prop :=
  List.Forall₂ (fun coin n ↦ StandsFor coin.amount n) coins amounts

/-- The coins of the native denomination stand for amounts, one for each in order. -/
def AreNativeAmounts (settings : Settings) (coins : List Coin) (amounts : List Int) : Prop :=
  AreAmounts (coins.filter fun coin ↦ coin.denom = settings.nativeDenom) amounts

/-- Amounts are read in order, and then they are summed. -/
theorem addAmounts_eq_mapM (total : Decimal) (coins : List Coin) :
    addAmounts total coins =
      (coins.mapM fun coin ↦ moduleInteger coin.amount).map fun xs ↦ xs.foldl add total := by
  induction coins generalizing total with
  | nil => rfl
  | cons coin coins ih =>
    rw [addAmounts, List.mapM_cons]
    cases moduleInteger coin.amount with
    | error e => rfl
    | ok x =>
      show addAmounts (total + x) coins = _
      rw [ih]
      cases coins.mapM fun coin ↦ moduleInteger coin.amount <;> rfl

theorem mapM_moduleInteger_eq_ok_iff {xs : List Decimal} :
    (coins.mapM fun coin ↦ moduleInteger coin.amount) = .ok xs ↔
      ∃ amounts, AreAmounts coins amounts ∧ amounts.map ofInt = xs :=
  listMapM_eq_ok_iff fun _ _ ↦ moduleInteger_eq_ok_iff

/-- The sum of coins is that of the amounts that the native ones stand for. -/
theorem nativeAmount_eq_ok_iff {x : Decimal} :
    nativeAmount settings coins = .ok x ↔
      ∃ amounts, AreNativeAmounts settings coins amounts ∧ ofInt amounts.sum = x := by
  rw [nativeAmount, addAmounts_eq_mapM, map_eq_ok_iff]
  simp only [mapM_moduleInteger_eq_ok_iff, AreNativeAmounts]
  constructor
  · rintro ⟨_, ⟨amounts, hamounts, rfl⟩, rfl⟩
    exact ⟨amounts, hamounts, (sum_map_ofInt amounts).symm⟩
  · rintro ⟨amounts, hamounts, rfl⟩
    exact ⟨_, ⟨amounts, hamounts, rfl⟩, sum_map_ofInt amounts⟩

theorem AreNativeAmounts.append {coins' : List Coin} {amounts amounts' : List Int}
    (h : AreNativeAmounts settings coins amounts) (h' : AreNativeAmounts settings coins' amounts') :
    AreNativeAmounts settings (coins ++ coins') (amounts ++ amounts') := by
  rw [AreNativeAmounts, List.filter_append]
  exact List.rel_append h h'

/-- Coins that are summed part by part have the sum of all of them. -/
theorem nativeAmount_flatMap {α : Type} {coinsOf : α → List Coin} {parts : List α}
    {xs : List Decimal}
    (h : List.Forall₂ (fun part x ↦ nativeAmount settings (coinsOf part) = .ok x) parts xs) :
    nativeAmount settings (parts.flatMap coinsOf) = .ok (sum xs) := by
  have hamounts : ∃ sums amounts : List Int, sums.map ofInt = xs ∧
      AreNativeAmounts settings (parts.flatMap coinsOf) amounts ∧ amounts.sum = sums.sum := by
    induction h with
    | nil => exact ⟨[], [], rfl, .nil, rfl⟩
    | cons hfirst _ ih =>
      obtain ⟨first, hcoins, rfl⟩ := nativeAmount_eq_ok_iff.1 hfirst
      obtain ⟨sums, amounts, rfl, hrest, hsum⟩ := ih
      refine ⟨first.sum :: sums, first ++ amounts, rfl, ?_, ?_⟩
      · rw [List.flatMap_cons]
        exact hcoins.append hrest
      · rw [List.sum_append, List.sum_cons, hsum]
  obtain ⟨sums, amounts, rfl, hcoins, hsum⟩ := hamounts
  rw [sum_map_ofInt, ← hsum]
  exact nativeAmount_eq_ok_iff.2 ⟨amounts, hcoins, rfl⟩

end Reading

end ChainRecord
