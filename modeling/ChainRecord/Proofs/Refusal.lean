import ChainRecord.Proofs.NumeralGrammar
import ChainRecord.Reading.Message
import Mathlib.Algebra.Ring.Int.Defs

/-!
# Which messages are refused

A message of a transaction has no record if it is inconsistent, and for no other reason
(`record_fails_iff`). What makes a message inconsistent is said of the message and the native
denomination alone (`IsInconsistent`): a text that is no numeral, a time that does not exist, a
namespace without a blob. So neither the block and the place of the message nor what it wraps has a
say in it, and most kinds of messages are never refused.

Readers check one thing after the other and stop at the first that is wrong. As no check depends on
the result of another one, a reader fails where any of its checks does (`fails_bind_iff`).
-/

namespace ChainRecord

namespace Reading

/-! ### What is wrong with a part of a message -/

/-- Seconds since the epoch and nanoseconds are a point in time: the second belongs to the years
that can be written, and the nanoseconds to the second, or to a leap second behind the last one of a
minute. -/
def IsTime (seconds nanos : Int) : Prop :=
  (-8334601228800 ≤ seconds ∧ seconds ≤ 8210266876799) ∧ 0 ≤ nanos ∧
    (nanos < 10 ^ 9 ∨ nanos < 2 * 10 ^ 9 ∧ seconds % 60 = 59)

/-- A coin of the native denomination has no amount that is a whole number. -/
def IsMalformedAmount (settings : Settings) (coins : List Coin) : Prop :=
  ∃ coin ∈ coins, coin.denom = settings.nativeDenom ∧ IsMalformedInteger coin.amount

theorem fails_addAmounts_iff {total : Decimal} {coins : List Coin} :
    Fails (addAmounts total coins) ↔ ∃ coin ∈ coins, IsMalformedInteger coin.amount := by
  induction coins generalizing total with
  | nil => simp [addAmounts]
  | cons coin coins ih =>
    rw [addAmounts, fails_bind_iff fun _ ↦ ih, fails_moduleInteger_iff]
    simp only [List.mem_cons, exists_eq_or_imp]

theorem fails_nativeAmount_iff {settings : Settings} {coins : List Coin} :
    Fails (nativeAmount settings coins) ↔ IsMalformedAmount settings coins := by
  simp only [nativeAmount, fails_addAmounts_iff, List.mem_filter, decide_eq_true_eq, and_assoc,
    IsMalformedAmount]

theorem ofUnix?_eq_none_iff {seconds : Int} {nanos : Nat} :
    Time.ofUnix? seconds nanos = none ↔ ¬ IsTime seconds nanos := by
  have hcond : (Time.isRepresentable seconds &&
      (nanos < 1000000000 || (nanos < 2000000000 && seconds % 60 == 59))) = true ↔
      IsTime seconds nanos := by
    simp only [Time.isRepresentable, Bool.and_eq_true, Bool.or_eq_true, decide_eq_true_eq,
      beq_iff_eq]
    simp only [Time.firstSecond, Time.lastSecond, IsTime]
    omega
  rw [Time.ofUnix?, ← hcond, ite_eq_right_iff]
  simp only [reduceCtorEq, imp_false]

theorem fails_unixTime_iff {seconds : Int} : Fails (unixTime seconds) ↔ ¬ IsTime seconds 0 := by
  rw [unixTime, ← Int.natCast_zero, ← ofUnix?_eq_none_iff]
  cases Time.ofUnix? seconds 0 <;> simp

theorem fails_timestamp_iff {value : Timestamp} :
    Fails (timestamp value) ↔ ¬ IsTime value.seconds.toInt value.nanos.toInt := by
  rw [timestamp]
  by_cases hnanos : value.nanos.toInt < 0
  · simp only [if_pos hnanos, fails_error, true_iff, IsTime]
    omega
  · rw [if_neg hnanos]
    have hnat : (value.nanos.toInt.toNat : Int) = value.nanos.toInt := by omega
    rw [← hnat, ← ofUnix?_eq_none_iff, hnat]
    cases Time.ofUnix? value.seconds.toInt value.nanos.toInt.toNat <;> simp

end Reading

/-! ### Blobs -/

namespace Blob

/-- A namespace has no size or no bytes. -/
def MsgPayForBlobs.IsInconsistent (m : MsgPayForBlobs) : Prop :=
  ∃ (i : Nat) (bytes : Bytes), m.namespaces[i]? = some bytes ∧ (m.blobSizes[i]? = none ∨ bytes = [])

theorem fails_pairNamespaces_iff {block : Block} {count index : Nat} {namespaces : List Bytes}
    {sizes : List UInt32} :
    Fails (pairNamespaces block count index namespaces sizes) ↔
      ∃ (i : Nat) (bytes : Bytes),
        namespaces[i]? = some bytes ∧ (sizes[i]? = none ∨ bytes = []) := by
  induction namespaces generalizing index sizes with
  | nil => simp [pairNamespaces]
  | cons bytes namespaces ih =>
    rw [← Nat.or_exists_add_one]
    cases sizes with
    | nil => simp [pairNamespaces]
    | cons size sizes =>
      cases bytes with
      | nil => simp [pairNamespaces, Record.Namespace.ofBytes?]
      | cons version identifier =>
        simp [pairNamespaces, Record.Namespace.ofBytes?, ih]

end Blob

/-! ### Validators -/

namespace Staking

open Reading

/-- The stake, the least stake or a rate is no number. -/
def MsgCreateValidator.IsInconsistent (m : MsgCreateValidator) : Prop :=
  (∃ stake, m.value = some stake ∧ IsMalformedInteger stake.amount) ∨
    IsMalformedInteger m.minSelfDelegation ∨
    ∃ commission, m.commission = some commission ∧
      (IsMalformedRate commission.rate ∨ IsMalformedRate commission.maxRate ∨
        IsMalformedRate commission.maxChangeRate)

/-- The least stake or the rate is no number. -/
def MsgEditValidator.IsInconsistent (m : MsgEditValidator) : Prop :=
  IsMalformedInteger m.minSelfDelegation ∨ IsMalformedRate m.commissionRate

/-- Rates that are left out are empty, and so not malformed. -/
theorem isMalformed_rates_iff {rates : Option CommissionRates} :
    (IsMalformedRate (rates.getD CommissionRates.shape.absent).rate ∨
      IsMalformedRate (rates.getD CommissionRates.shape.absent).maxRate ∨
        IsMalformedRate (rates.getD CommissionRates.shape.absent).maxChangeRate) ↔
    ∃ commission, rates = some commission ∧
      (IsMalformedRate commission.rate ∨ IsMalformedRate commission.maxRate ∨
        IsMalformedRate commission.maxChangeRate) := by
  cases rates with
  | none =>
    have habsent : CommissionRates.shape.absent = ⟨"", "", ""⟩ := rfl
    simp [habsent, IsMalformedRate]
  | some commission => simp

theorem fails_createdValidator_iff {scope : Scope} {m : MsgCreateValidator} :
    Fails (createdValidator scope m) ↔ m.IsInconsistent := by
  rw [MsgCreateValidator.IsInconsistent, ← isMalformed_rates_iff]
  unfold createdValidator
  -- a stake that is left out and one that is read are followed by the same checks
  cases m.value
  all_goals
    refine (fails_bind_iff fun _ ↦ fails_bind_iff fun _ ↦ fails_bind_iff fun _ ↦
      fails_bind_iff fun _ ↦ fails_bind_ok).trans ?_
    simp only [fails_rate_iff, fails_moduleInteger_iff, not_fails_ok, Option.some.injEq,
      exists_eq_left', reduceCtorEq, false_and, exists_false, false_or]
    tauto

theorem fails_editedValidator_iff {scope : Scope} {m : MsgEditValidator} :
    Fails (editedValidator scope m) ↔ m.IsInconsistent := by
  rw [editedValidator, fails_bind_iff fun _ ↦ fails_bind_ok, fails_rate_iff,
    fails_moduleInteger_iff]
  exact or_comm

end Staking

/-! ### Vesting -/

namespace Vesting

open Reading

/-- A native amount is no number, or the schedule has no end. -/
def MsgCreateVestingAccount.IsInconsistent (settings : Settings) (m : MsgCreateVestingAccount) :
    Prop :=
  IsMalformedAmount settings m.amount ∨ ¬ IsTime m.endTime.toInt 0

/-- A native amount is no number. -/
def MsgCreatePermanentLockedAccount.IsInconsistent (settings : Settings)
    (m : MsgCreatePermanentLockedAccount) : Prop :=
  IsMalformedAmount settings m.amount

/-- The second at which so many periods of a schedule end. -/
def MsgCreatePeriodicVestingAccount.secondAfter (m : MsgCreatePeriodicVestingAccount)
    (periods : Nat) : Int :=
  m.startTime.toInt + ((m.vestingPeriods.take periods).map (·.length.toInt)).sum

/-- A native amount of a period is no number, some first periods end at a second that is no number
of sixty-four bits, or the schedule has no start or no end. -/
def MsgCreatePeriodicVestingAccount.IsInconsistent (settings : Settings)
    (m : MsgCreatePeriodicVestingAccount) : Prop :=
  (∃ period ∈ m.vestingPeriods, IsMalformedAmount settings period.amount) ∨
    (∃ k ≤ m.vestingPeriods.length, m.secondAfter k < -2 ^ 63 ∨ 2 ^ 63 ≤ m.secondAfter k) ∨
    ¬ IsTime m.startTime.toInt 0 ∨ ¬ IsTime (m.secondAfter m.vestingPeriods.length) 0

theorem fails_createdAccount_iff {scope : Scope} {m : MsgCreateVestingAccount} :
    Fails (createdAccount scope m) ↔ m.IsInconsistent scope.settings := by
  rw [createdAccount, fails_bind_iff fun _ ↦ fails_bind_ok, fails_nativeAmount_iff,
    fails_unixTime_iff]
  rfl

theorem fails_lockedAccount_iff {scope : Scope} {m : MsgCreatePermanentLockedAccount} :
    Fails (lockedAccount scope m) ↔ m.IsInconsistent scope.settings := by
  rw [lockedAccount, fails_bind_ok, fails_nativeAmount_iff]
  rfl

theorem isSeconds_eq_false_iff {n : Int} :
    isSeconds n = false ↔ n < -2 ^ 63 ∨ 2 ^ 63 ≤ n := by
  rw [← Bool.not_eq_true, isSeconds, Bool.and_eq_true, decide_eq_true_eq, decide_eq_true_eq,
    minSeconds, maxSeconds]
  omega

/-- A schedule whose partial sums are all numbers of seconds ends at the last of them. -/
theorem eq_of_endOf? {start seconds : Int} {lengths : List Int}
    (h : endOf? start lengths = some seconds) : seconds = start + lengths.sum := by
  induction lengths generalizing start with
  | nil => simpa [endOf?] using h.symm
  | cons length lengths ih =>
    rw [endOf?] at h
    split at h
    · rw [ih h, List.sum_cons, Int.add_assoc]
    · exact absurd h (by simp)

theorem endOf?_eq_none_iff {start : Int} (hstart : isSeconds start = true) {lengths : List Int} :
    endOf? start lengths = none ↔
      ∃ k ≤ lengths.length, isSeconds (start + (lengths.take k).sum) = false := by
  induction lengths generalizing start with
  | nil => simp [endOf?, hstart]
  | cons length lengths ih =>
    rw [endOf?]
    by_cases hnext : isSeconds (start + length) = true
    · rw [if_pos hnext, ih hnext]
      -- the partial sums from the second one on are those of the other lengths
      conv_rhs => rw [← Nat.or_exists_add_one]
      simp [hstart, Int.add_assoc]
    · rw [if_neg hnext]
      exact iff_of_true rfl ⟨1, by simp, by simpa using hnext⟩

/-- The end of a schedule is missing where some first periods end out of range. -/
theorem endOf?_periods_eq_none_iff {m : MsgCreatePeriodicVestingAccount} :
    endOf? m.startTime.toInt (m.vestingPeriods.map (·.length.toInt)) = none ↔
      ∃ k ≤ m.vestingPeriods.length, m.secondAfter k < -2 ^ 63 ∨ 2 ^ 63 ≤ m.secondAfter k := by
  have hstart : isSeconds m.startTime.toInt = true := by
    rw [← Bool.not_eq_false, isSeconds_eq_false_iff]
    have hlow := m.startTime.le_toInt
    have hhigh := m.startTime.toInt_lt
    omega
  rw [endOf?_eq_none_iff hstart, List.length_map]
  simp only [isSeconds_eq_false_iff, ← List.map_take, MsgCreatePeriodicVestingAccount.secondAfter]

/-- The periods do not matter to whether the schedule has a start and an end. -/
theorem fails_schedule_iff {β : Type} {m : MsgCreatePeriodicVestingAccount} {f : Time → Time → β} :
    Fails (do
      let endSeconds ← endOf m.startTime.toInt (m.vestingPeriods.map (·.length.toInt))
      let startTime ← unixTime m.startTime.toInt
      let endTime ← unixTime endSeconds
      .ok (f startTime endTime)) ↔
    (∃ k ≤ m.vestingPeriods.length, m.secondAfter k < -2 ^ 63 ∨ 2 ^ 63 ≤ m.secondAfter k) ∨
      ¬ IsTime m.startTime.toInt 0 ∨ ¬ IsTime (m.secondAfter m.vestingPeriods.length) 0 := by
  rw [← endOf?_periods_eq_none_iff, endOf]
  cases hend : endOf? m.startTime.toInt (m.vestingPeriods.map (·.length.toInt)) with
  | none => exact iff_of_true ⟨_, rfl⟩ (Or.inl rfl)
  | some seconds =>
    have hseconds : seconds = m.secondAfter m.vestingPeriods.length := by
      rw [eq_of_endOf? hend, MsgCreatePeriodicVestingAccount.secondAfter, List.take_length]
    -- all partial sums are in range, and the last of them is the end
    refine Iff.trans ?_ (or_iff_right (by simp)).symm
    rw [← hseconds, ← fails_unixTime_iff, ← fails_unixTime_iff]
    exact fails_bind_iff fun _ ↦ fails_bind_ok

theorem fails_periodicAccount_iff {scope : Scope} {m : MsgCreatePeriodicVestingAccount} :
    Fails (periodicAccount scope m) ↔ m.IsInconsistent scope.settings := by
  refine (fails_bind_iff fun _ ↦ fails_schedule_iff).trans ?_
  rw [fails_listMapM_iff]
  simp only [readPeriod, fails_bind_ok, fails_nativeAmount_iff]
  rfl

end Vesting

/-! ### Grants -/

/-- A permission has an expiration that is no time. -/
def Authz.MsgGrant.IsInconsistent (m : MsgGrant) : Prop :=
  ∃ grant expiration, m.grant = some grant ∧ grant.expiration = some expiration ∧
    ¬ Reading.IsTime expiration.seconds.toInt expiration.nanos.toInt

theorem Authz.fails_given_iff {scope : Reading.Scope} {m : MsgGrant} :
    Fails (given scope m) ↔ m.IsInconsistent := by
  refine fails_bind_ok.trans ?_
  rw [fails_optionMapM_iff, MsgGrant.IsInconsistent]
  cases m.grant with
  | none =>
    have habsent : Grant.shape.absent = ⟨none, none⟩ := rfl
    simp [habsent]
  | some grant => simp [Reading.fails_timestamp_iff]

namespace Feegrant

/-- An allowance that is not a restricted one expires at a time: a basic one by itself, a periodic
one with its basic part. -/
inductive PlainExpires (any : Any) (expiration : Timestamp) : Prop
  /-- A basic allowance. -/
  | basic {allowance : BasicAllowance} :
      any.typeUrl = "/cosmos.feegrant.v1beta1.BasicAllowance" →
      BasicAllowance.shape.decode any.value = .ok allowance →
      allowance.expiration = some expiration → PlainExpires any expiration
  /-- A periodic allowance. -/
  | periodic {allowance : PeriodicAllowance} {basic : BasicAllowance} :
      any.typeUrl = "/cosmos.feegrant.v1beta1.PeriodicAllowance" →
      PeriodicAllowance.shape.decode any.value = .ok allowance → allowance.basic = some basic →
      basic.expiration = some expiration → PlainExpires any expiration

/-- An allowance expires at a time. A restricted one expires with the allowance it restricts, if
that is not a restricted one as well. -/
inductive Expires (any : Any) (expiration : Timestamp) : Prop
  /-- An allowance without a restriction. -/
  | plain : PlainExpires any expiration → Expires any expiration
  /-- A restricted allowance. -/
  | restricted {allowance : AllowedMsgAllowance} {inner : Any} :
      any.typeUrl = "/cosmos.feegrant.v1beta1.AllowedMsgAllowance" →
      AllowedMsgAllowance.shape.decode any.value = .ok allowance →
      allowance.allowance = some inner → PlainExpires inner expiration → Expires any expiration

/-- An allowance expires at what is no time. -/
def MsgGrantAllowance.IsInconsistent (m : MsgGrantAllowance) : Prop :=
  ∃ allowance expiration, m.allowance = some allowance ∧ Expires allowance expiration ∧
    ¬ Reading.IsTime expiration.seconds.toInt expiration.nanos.toInt

theorem plainAllowanceOf_expiration_iff {any : Any} {expiration : Timestamp} :
    (plainAllowanceOf any).expiration = some expiration ↔ PlainExpires any expiration := by
  constructor
  · intro h
    unfold plainAllowanceOf at h
    split at h
    · split at h
      · exact .basic ‹_› ‹_› h
      · exact absurd h (by simp)
    · split at h
      · split at h
        · obtain ⟨basic, hbasic, h⟩ := Option.bind_eq_some_iff.1 h
          exact .periodic ‹_› ‹_› hbasic h
        · exact absurd h (by simp)
      · exact absurd h (by simp)
  · rintro (⟨hurl, hdecode, h⟩ | ⟨hurl, hdecode, hbasic, h⟩)
    · rw [plainAllowanceOf, if_pos hurl, hdecode]
      exact h
    · rw [plainAllowanceOf, if_neg (by rw [hurl]; decide), if_pos hurl, hdecode]
      exact Option.bind_eq_some_iff.2 ⟨_, hbasic, h⟩

theorem allowanceOf_expiration_iff {any : Any} {expiration : Timestamp} :
    (allowanceOf any).expiration = some expiration ↔ Expires any expiration := by
  by_cases hurl : any.typeUrl = restrictedUrl
  · rw [allowanceOf, if_pos hurl]
    -- a restricted allowance is none of the others
    have hplain : ¬ PlainExpires any expiration := by
      rintro (⟨hbasic, -, -⟩ | ⟨hperiodic, -, -, -⟩)
      · exact absurd (hurl.symm.trans hbasic) (by decide)
      · exact absurd (hurl.symm.trans hperiodic) (by decide)
    constructor
    · intro h
      split at h
      · obtain ⟨inner, hinner, h⟩ := Option.bind_eq_some_iff.1 h
        exact .restricted hurl ‹_› hinner (plainAllowanceOf_expiration_iff.1 h)
      · exact absurd h (by simp)
    · rintro (h | ⟨-, hdecode, hinner, h⟩)
      · exact absurd h hplain
      · rw [hdecode]
        exact Option.bind_eq_some_iff.2 ⟨_, hinner, plainAllowanceOf_expiration_iff.2 h⟩
  · rw [allowanceOf, if_neg hurl, plainAllowanceOf_expiration_iff]
    constructor
    · exact .plain
    · rintro (h | ⟨hrestricted, -, -, -⟩)
      · exact h
      · exact absurd hrestricted hurl

theorem fails_given_iff {scope : Reading.Scope} {m : MsgGrantAllowance} :
    Fails (given scope m) ↔ m.IsInconsistent := by
  refine fails_bind_ok.trans ?_
  rw [fails_optionMapM_iff, MsgGrantAllowance.IsInconsistent]
  cases m.allowance with
  | none => simp
  | some allowance =>
    simp [Reading.fails_timestamp_iff, allowanceOf_expiration_iff]

end Feegrant

/-! ### Proposals -/

theorem Gov.fails_submitted_iff {scope : Reading.Scope} {m : MsgSubmitProposal} :
    Fails (submitted scope m) ↔
      Reading.IsMalformedAmount scope.settings m.initialDeposit :=
  fails_bind_ok.trans Reading.fails_nativeAmount_iff

theorem LegacyGov.fails_submitted_iff {scope : Reading.Scope} {m : MsgSubmitProposal} :
    Fails (submitted scope m) ↔
      Reading.IsMalformedAmount scope.settings m.initialDeposit :=
  fails_bind_ok.trans Reading.fails_nativeAmount_iff

/-! ### All messages -/

namespace Message

open Reading

/-- What makes a message inconsistent. Of kinds that are not listed, and of unknown types, no
message is. -/
def IsInconsistent (settings : Settings) : Message → Prop
  | .known (.blob .payForBlobs) m => Blob.MsgPayForBlobs.IsInconsistent m
  | .known (.staking .createValidator) m => Staking.MsgCreateValidator.IsInconsistent m
  | .known (.staking .editValidator) m => Staking.MsgEditValidator.IsInconsistent m
  | .known (.vesting .createVestingAccount) m =>
    Vesting.MsgCreateVestingAccount.IsInconsistent settings m
  | .known (.vesting .createPermanentLockedAccount) m =>
    Vesting.MsgCreatePermanentLockedAccount.IsInconsistent settings m
  | .known (.vesting .createPeriodicVestingAccount) m =>
    Vesting.MsgCreatePeriodicVestingAccount.IsInconsistent settings m
  | .known (.authz .grant) m => Authz.MsgGrant.IsInconsistent m
  | .known (.feegrant .grantAllowance) m => Feegrant.MsgGrantAllowance.IsInconsistent m
  | .known (.gov .submitProposal) m =>
    IsMalformedAmount settings (Gov.MsgSubmitProposal.initialDeposit m)
  | .known (.legacyGov .submitProposal) m =>
    IsMalformedAmount settings (LegacyGov.MsgSubmitProposal.initialDeposit m)
  | _ => False

theorem fails_read_iff (message : Message) (scope : Scope) :
    Fails (message.read scope) ↔ message.IsInconsistent scope.settings := by
  cases message with
  | unknown any => exact iff_false_intro (not_fails_ok _)
  | known kind m =>
    cases kind with
    | blob kind =>
      cases kind with
      | payForBlobs => exact fails_bind_ok.trans Blob.fails_pairNamespaces_iff
    | staking kind =>
      cases kind with
      | createValidator => exact fails_bind_ok.trans Staking.fails_createdValidator_iff
      | editValidator => exact fails_bind_ok.trans Staking.fails_editedValidator_iff
      | _ => exact iff_false_intro (not_fails_ok _)
    | vesting kind =>
      cases kind with
      | createVestingAccount => exact fails_map.trans Vesting.fails_createdAccount_iff
      | createPermanentLockedAccount => exact fails_map.trans Vesting.fails_lockedAccount_iff
      | createPeriodicVestingAccount => exact fails_map.trans Vesting.fails_periodicAccount_iff
    | authz kind =>
      cases kind with
      | grant => exact fails_bind_ok.trans Authz.fails_given_iff
      | _ => exact iff_false_intro (not_fails_ok _)
    | feegrant kind =>
      cases kind with
      | grantAllowance => exact fails_bind_ok.trans Feegrant.fails_given_iff
      | _ => exact iff_false_intro (not_fails_ok _)
    | gov kind =>
      cases kind with
      | submitProposal => exact fails_bind_ok.trans Gov.fails_submitted_iff
      | _ => exact iff_false_intro (not_fails_ok _)
    | legacyGov kind =>
      cases kind with
      | submitProposal => exact fails_bind_ok.trans LegacyGov.fails_submitted_iff
      | _ => exact iff_false_intro (not_fails_ok _)
    | _ => exact iff_false_intro (not_fails_ok _)

/-- **Only inconsistent messages are refused.** Whatever the decoder and wherever a message stands,
it has no record exactly if it is inconsistent. -/
theorem record_fails_iff (d : Decoder) (block : Block) (message : Message) (position : Nat)
    (status : Status) :
    (∃ e, message.record d block position status = .error e) ↔
      message.IsInconsistent d.settings := by
  refine Iff.trans ?_ (message.fails_read_iff (outermost d block position status))
  rw [record, recordIn]
  cases message.read (outermost d block position status) with
  | error cause => exact iff_of_true ⟨_, rfl⟩ ⟨cause, rfl⟩
  | ok found => exact iff_of_false (fun ⟨_, h⟩ ↦ nomatch h) (not_fails_ok found)

end Message

end ChainRecord
