import ChainRecord.Proofs.NativeAmount
import ChainRecord.Proofs.Refusal
import ChainRecord.Proofs.Stamp
import Mathlib.Algebra.Order.BigOperators.Group.List

/-!
# Schedules of vesting accounts

A periodic account ends when all of its periods have passed one after the other, and holds the coins
of all of them. What is recorded says so without a loss (`IsRecordedAs`): the end is the sum of the
start and all lengths as whole numbers, and the amount is that of all coins in one list.

A start or an end that is no time is refused (`exists_invalidTimestamp`). The second that is named
is the one that does not exist, unless a partial sum has left the range of sixty-four bits
(`Names`): then it is where the sums end if each stops at the end of the range. Where no length is
negative, they can only stop at the upper end, and they do not come back from it
(`saturatedEnd_of_nonneg`).
-/

namespace ChainRecord

open Reading

/-! ### Times -/

namespace Reading

theorem unixTime_of_not_isTime {seconds : Int} (h : ¬ IsTime seconds 0) :
    unixTime seconds = .error (.invalidTimestamp seconds 0) := by
  rw [← Int.natCast_zero, ← ofUnix?_eq_none_iff] at h
  rw [unixTime, h]

theorem unixTime_of_isTime {seconds : Int} (h : IsTime seconds 0) :
    unixTime seconds = .ok ⟨seconds, 0⟩ := by
  have hsome : Time.ofUnix? seconds 0 ≠ none := fun hnone ↦ ofUnix?_eq_none_iff.1 hnone h
  rw [Time.ofUnix?, ne_eq, ite_eq_right_iff, Classical.not_imp] at hsome
  rw [unixTime, Time.ofUnix?, if_pos hsome.1]

theorem eq_of_unixTime {seconds : Int} {time : Time} (h : unixTime seconds = .ok time) :
    time = ⟨seconds, 0⟩ := by
  by_cases htime : IsTime seconds 0
  · rw [unixTime_of_isTime htime] at h
    exact Except.ok.inj h.symm
  · rw [unixTime_of_not_isTime htime] at h
    cases h

end Reading

namespace Vesting

/-! ### Sums that stop at the end of the range -/

theorem saturate_eq_min {n : Int} (h : -2 ^ 63 ≤ n) : saturate n = min n (2 ^ 63 - 1) := by
  simp only [saturate, minSeconds, maxSeconds]
  omega

/-- Where no length is negative, only the last sum matters. -/
theorem saturatedEnd_of_nonneg {start : Int} {lengths : List Int} (hlow : -2 ^ 63 ≤ start)
    (hhigh : start < 2 ^ 63) (h : ∀ length ∈ lengths, 0 ≤ length) :
    saturatedEnd start lengths = min (start + lengths.sum) (2 ^ 63 - 1) := by
  induction lengths generalizing start with
  | nil =>
    show start = min (start + 0) (2 ^ 63 - 1)
    omega
  | cons length lengths ih =>
    obtain ⟨hlength, hrest⟩ := List.forall_mem_cons.1 h
    have hsum : 0 ≤ lengths.sum := List.sum_nonneg hrest
    have hnext : saturate (start + length) = min (start + length) (2 ^ 63 - 1) :=
      saturate_eq_min (by omega)
    show saturatedEnd (saturate (start + length)) lengths = _
    rw [ih (by omega) (by omega) hrest, hnext, List.sum_cons]
    omega

/-! ### Accounts -/

namespace MsgCreatePeriodicVestingAccount

variable {settings : Settings} {scope : Scope} {m : MsgCreatePeriodicVestingAccount}
  {account : Record.VestingAccount} {seconds : Int}

/-- The second at which all periods of a schedule have passed. -/
def endSecond (m : MsgCreatePeriodicVestingAccount) : Int :=
  m.startTime.toInt + (m.vestingPeriods.map (·.length.toInt)).sum

theorem secondAfter_length (m : MsgCreatePeriodicVestingAccount) :
    m.secondAfter m.vestingPeriods.length = m.endSecond := by
  rw [secondAfter, List.take_length, endSecond]

/-- Every partial sum of a schedule has sixty-four bits. -/
def IsInRange (m : MsgCreatePeriodicVestingAccount) : Prop :=
  ∀ k ≤ m.vestingPeriods.length, -2 ^ 63 ≤ m.secondAfter k ∧ m.secondAfter k < 2 ^ 63

theorem endOf_of_isInRange (h : m.IsInRange) :
    endOf m.startTime.toInt (m.vestingPeriods.map (·.length.toInt)) = .ok m.endSecond := by
  cases hend : endOf? m.startTime.toInt (m.vestingPeriods.map (·.length.toInt)) with
  | none =>
    obtain ⟨k, hk, hout⟩ := endOf?_periods_eq_none_iff.1 hend
    have hin := h k hk
    omega
  | some seconds =>
    obtain rfl : seconds = m.endSecond := eq_of_endOf? hend
    rw [endOf, hend]

theorem endOf_of_not_isInRange (h : ¬ m.IsInRange) :
    endOf m.startTime.toInt (m.vestingPeriods.map (·.length.toInt)) =
      .error (.invalidTimestamp
        (saturatedEnd m.startTime.toInt (m.vestingPeriods.map (·.length.toInt))) 0) := by
  have hend : endOf? m.startTime.toInt (m.vestingPeriods.map (·.length.toInt)) = none := by
    simp only [IsInRange, not_forall] at h
    obtain ⟨k, hk, hout⟩ := h
    exact endOf?_periods_eq_none_iff.2 ⟨k, hk, by omega⟩
  rw [endOf, hend]

/-- The account that is recorded has the schedule and the coins of the message. -/
structure IsRecordedAs (settings : Settings) (block : Block) (m : MsgCreatePeriodicVestingAccount)
    (account : Record.VestingAccount) : Prop where
  address : account.address = m.toAddress
  vestingType : account.vestingType = .periodic
  height : account.height = block.height
  startTime : account.startTime = some ⟨m.startTime.toInt, 0⟩
  endTime : account.endTime = some ⟨m.endSecond, 0⟩
  /-- Periods are recorded one by one, in order. -/
  periods : List.Forall₂ (fun period recorded ↦ recorded.length = period.length ∧
    nativeAmount settings period.amount = .ok recorded.amount) m.vestingPeriods account.periods
  /-- The coins of all periods, in one list, have the amount. -/
  amount : nativeAmount settings (m.vestingPeriods.flatMap (·.amount)) = .ok account.amount
  /-- The amount is the sum of what the native coins of all periods stand for. -/
  value : ∃ amounts, AreNativeAmounts settings (m.vestingPeriods.flatMap (·.amount)) amounts ∧
    account.amount.value = amounts.sum

theorem readPeriods_eq_ok_iff {periods : List Period} {recorded : List Record.VestingPeriod} :
    periods.mapM (readPeriod settings) = .ok recorded ↔
      List.Forall₂ (fun period recorded ↦ recorded.length = period.length ∧
        nativeAmount settings period.amount = .ok recorded.amount) periods recorded := by
  rw [← readFrom_const _ 0]
  refine readFrom_eq_ok_iff_forall₂ fun _ period recorded ↦ ?_
  simp only [readPeriod, bind_eq_ok_iff]
  constructor
  · rintro ⟨amount, hamount, hrecorded⟩
    obtain rfl := Except.ok.inj hrecorded
    exact ⟨rfl, hamount⟩
  · rintro ⟨hlength, hamount⟩
    refine ⟨_, hamount, ?_⟩
    rw [← hlength]

theorem isRecordedAs_of_periodicAccount (h : periodicAccount scope m = .ok account) :
    m.IsRecordedAs scope.settings scope.block account := by
  obtain ⟨recorded, hrecorded, h⟩ := bind_eq_ok_iff.1 h
  obtain ⟨endSecond, hend, h⟩ := bind_eq_ok_iff.1 h
  obtain ⟨startTime, hstartTime, h⟩ := bind_eq_ok_iff.1 h
  obtain ⟨endTime, hendTime, h⟩ := bind_eq_ok_iff.1 h
  obtain rfl := Except.ok.inj h
  obtain rfl := eq_of_unixTime hstartTime
  obtain rfl := eq_of_unixTime hendTime
  have hseconds : endSecond = m.endSecond := by
    by_cases hrange : m.IsInRange
    · rw [endOf_of_isInRange hrange] at hend
      exact Except.ok.inj hend.symm
    · rw [endOf_of_not_isInRange hrange] at hend
      cases hend
  have hperiods := readPeriods_eq_ok_iff.1 hrecorded
  have hamount : nativeAmount scope.settings (m.vestingPeriods.flatMap (·.amount)) =
      .ok (Decimal.sum (recorded.map (·.amount))) :=
    nativeAmount_flatMap (List.forall₂_map_right_iff.2 (hperiods.imp fun _ _ h ↦ h.2))
  obtain ⟨amounts, hcoins, hsum⟩ := nativeAmount_eq_ok_iff.1 hamount
  exact
    { address := rfl
      vestingType := rfl
      height := rfl
      startTime := rfl
      endTime := by rw [hseconds]
      periods := hperiods
      amount := hamount
      value := ⟨amounts, hcoins, by rw [← hsum, Decimal.value_ofInt]⟩ }

/-! ### Refusals -/

/-- The second that is named when a schedule is refused. -/
inductive Names (m : MsgCreatePeriodicVestingAccount) : Int → Prop
  /-- A partial sum is out of range, whatever the start is. -/
  | outOfRange : ¬ m.IsInRange →
      Names m (saturatedEnd m.startTime.toInt (m.vestingPeriods.map (·.length.toInt)))
  /-- The start is no time. -/
  | noStart : m.IsInRange → ¬ IsTime m.startTime.toInt 0 → Names m m.startTime.toInt
  /-- Only the end is no time. -/
  | noEnd : m.IsInRange → IsTime m.startTime.toInt 0 → ¬ IsTime m.endSecond 0 →
      Names m m.endSecond

/-- Where no length is negative and the end is out of range, the second is the end, moved into the
range. -/
theorem Names.eq_min (h : m.Names seconds)
    (hlengths : ∀ period ∈ m.vestingPeriods, 0 ≤ period.length.toInt)
    (hend : m.endSecond < -2 ^ 63 ∨ 2 ^ 63 ≤ m.endSecond) :
    seconds = min m.endSecond (2 ^ 63 - 1) := by
  have hout : ¬ m.IsInRange := by
    intro hrange
    have hlast := hrange _ (le_refl _)
    rw [m.secondAfter_length] at hlast
    omega
  cases h with
  | outOfRange _ =>
    refine saturatedEnd_of_nonneg m.startTime.le_toInt m.startTime.toInt_lt ?_
    simpa using hlengths
  | noStart hrange _ => exact absurd hrange hout
  | noEnd hrange _ _ => exact absurd hrange hout

/-- A schedule without a start or an end is refused, if its coins can be read. -/
theorem exists_invalidTimestamp
    (hamounts : ∀ period ∈ m.vestingPeriods, ¬ IsMalformedAmount scope.settings period.amount)
    (htimes : ¬ (IsTime m.startTime.toInt 0 ∧ IsTime m.endSecond 0)) :
    ∃ seconds, periodicAccount scope m = .error (.invalidTimestamp seconds 0) ∧
      m.Names seconds := by
  obtain ⟨recorded, hrecorded⟩ : ∃ recorded,
      m.vestingPeriods.mapM (readPeriod scope.settings) = .ok recorded := by
    rw [← not_fails_iff, fails_listMapM_iff]
    simp only [readPeriod, fails_bind_ok, fails_nativeAmount_iff, not_exists, not_and]
    exact hamounts
  unfold periodicAccount
  by_cases hrange : m.IsInRange
  · by_cases hstart : IsTime m.startTime.toInt 0
    · have hend : ¬ IsTime m.endSecond 0 := fun hend ↦ htimes ⟨hstart, hend⟩
      refine ⟨_, ?_, .noEnd hrange hstart hend⟩
      rw [hrecorded, endOf_of_isInRange hrange, unixTime_of_isTime hstart]
      show unixTime m.endSecond >>= _ = _
      rw [unixTime_of_not_isTime hend]
      rfl
    · refine ⟨_, ?_, .noStart hrange hstart⟩
      rw [hrecorded, endOf_of_isInRange hrange, unixTime_of_not_isTime hstart]
      rfl
  · refine ⟨_, ?_, .outOfRange hrange⟩
    rw [hrecorded, endOf_of_not_isInRange hrange]
    rfl

end MsgCreatePeriodicVestingAccount

/-! ### Records -/

/-- **A schedule is recorded exactly or refused.** If the transaction was executed and the message
has a record, the account in it starts at the start of the message, ends when all periods have
passed, has its periods one by one and has the amount of all of their coins. If the coins can be
read but the start or the end is no time, then there is no record, and the error names a second.
The second is the end, moved into the range, where the end is out of range and no length is
negative. -/
theorem schedule_exact (d : Decoder) (block : Block) (position : Nat)
    (m : MsgCreatePeriodicVestingAccount) :
    (∀ r, Message.record d block (.known (.vesting .createPeriodicVestingAccount) m) position
        .success = .ok r →
      ∃ account, r.entities.vestingAccount = some account ∧
        m.IsRecordedAs d.settings block account) ∧
    ((∀ period ∈ m.vestingPeriods, ¬ IsMalformedAmount d.settings period.amount) →
      ¬ (IsTime m.startTime.toInt 0 ∧ IsTime m.endSecond 0) →
      ∀ status, ∃ seconds,
        Message.record d block (.known (.vesting .createPeriodicVestingAccount) m) position
          status = .error ⟨"/cosmos.vesting.v1beta1.MsgCreatePeriodicVestingAccount", position,
            .invalidTimestamp seconds 0⟩ ∧
        m.Names seconds ∧
        ((∀ period ∈ m.vestingPeriods, 0 ≤ period.length.toInt) →
          m.endSecond < -2 ^ 63 ∨ 2 ^ 63 ≤ m.endSecond →
          seconds = min m.endSecond (2 ^ 63 - 1))) := by
  constructor
  · intro r h
    obtain ⟨found, hfound, rfl⟩ := Message.recordIn_eq_ok_iff.1 h
    obtain ⟨account, haccount, rfl⟩ := map_eq_ok_iff.1 hfound
    exact ⟨account, rfl, MsgCreatePeriodicVestingAccount.isRecordedAs_of_periodicAccount haccount⟩
  · intro hamounts htimes status
    obtain ⟨seconds, herror, hnames⟩ :=
      @MsgCreatePeriodicVestingAccount.exists_invalidTimestamp
        (outermost d block position status) m hamounts htimes
    refine ⟨seconds, ?_, hnames, hnames.eq_min⟩
    exact Message.recordIn_eq_error_iff.2 ⟨rfl, rfl, map_eq_error_iff.2 herror⟩

/-- The second of two periods has a negative length. One coin is not native, and one has an empty
amount. -/
def scheduleOfTwo : MsgCreatePeriodicVestingAccount :=
  ⟨"sender", "recipient", 1700000000,
    [⟨3600, [⟨"utia", "5"⟩, ⟨"uatom", "x"⟩]⟩, ⟨-600, [⟨"utia", "-2"⟩, ⟨"utia", ""⟩]⟩]⟩

/-- The first period ends at the last second of the range, and the second one behind it. -/
def endlessSchedule : MsgCreatePeriodicVestingAccount :=
  ⟨"sender", "recipient", 1700000000, [⟨9223372035154775807, []⟩, ⟨5, []⟩]⟩

/-- Two periods pass in fifty minutes. Periods that run on behind the last second are refused with
that second. -/
theorem schedule_exact_scheduleOfTwo :
    (∃ r account, Message.record {} ⟨100, ⟨1700000000, 0⟩⟩
        (.known (.vesting .createPeriodicVestingAccount) scheduleOfTwo) 0 .success = .ok r ∧
      r.entities.vestingAccount = some account ∧
      scheduleOfTwo.IsRecordedAs {} ⟨100, ⟨1700000000, 0⟩⟩ account ∧
      account.endTime = some ⟨1700003000, 0⟩ ∧ account.amount = .ofInt 3) ∧
    Message.record {} ⟨100, ⟨1700000000, 0⟩⟩
      (.known (.vesting .createPeriodicVestingAccount) endlessSchedule) 0 .success =
        .error ⟨"/cosmos.vesting.v1beta1.MsgCreatePeriodicVestingAccount", 0,
          .invalidTimestamp 9223372036854775807 0⟩ := by
  constructor
  · have hr : ∃ r, Message.record {} ⟨100, ⟨1700000000, 0⟩⟩
        (.known (.vesting .createPeriodicVestingAccount) scheduleOfTwo) 0 .success = .ok r :=
      ⟨_, rfl⟩
    obtain ⟨r, hr⟩ := hr
    obtain ⟨account, haccount, hrecorded⟩ := (schedule_exact _ _ _ _).1 r hr
    refine ⟨r, account, hr, haccount, hrecorded, hrecorded.endTime, ?_⟩
    exact Except.ok.inj (hrecorded.amount.symm.trans (by decide +kernel))
  · obtain ⟨seconds, herror, -, hseconds⟩ :=
      (schedule_exact {} ⟨100, ⟨1700000000, 0⟩⟩ 0 endlessSchedule).2
        (by simp [endlessSchedule, IsMalformedAmount]) (fun h ↦ absurd h.2.1 (by decide)) .success
    have hmax : seconds = 9223372036854775807 := hseconds (by decide) (by decide)
    rw [herror, hmax]

end Vesting

end ChainRecord
