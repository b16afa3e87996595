import ChainRecord.Reading.Scope

/-!
# Reading messages of the staking and slashing modules

A validator is recorded with its rates as numbers. Rates and amounts are read in the order in which
they are checked: the stake, the three rates, and the least stake of the validator itself.
-/

namespace ChainRecord.Staking

open Reading

/-- The account that delegates to a new validator first. Where it is left out it is the account of
the validator, if the validator has one. -/
def delegatorOf (d : Decoder) (m : MsgCreateValidator) : String :=
  if m.delegatorAddress.isEmpty then
    (d.settings.accountOf? m.validatorAddress d.addressCodec).getD ""
  else m.delegatorAddress

/-- Adds how a validator presents itself. -/
def describe (validator : Record.Validator) : Option Description → Record.Validator
  | none => validator
  | some d =>
    { validator with
      moniker := d.moniker
      identity := d.identity
      website := d.website
      contacts := d.securityContact
      details := d.details }

/-- The validator that a message creates. -/
def createdValidator (scope : Scope) (m : MsgCreateValidator) :
    Except Inconsistency Record.Validator := do
  let commission := m.commission.getD CommissionRates.shape.absent
  let stake ← match m.value with
    | none => .ok Decimal.zero
    | some coin => moduleInteger coin.amount
  let rate ← Reading.rate commission.rate
  let maxRate ← Reading.rate commission.maxRate
  let maxChangeRate ← Reading.rate commission.maxChangeRate
  let minSelfDelegation ← moduleInteger m.minSelfDelegation
  let validator : Record.Validator :=
    { delegator := delegatorOf scope.decoder m
      address := m.validatorAddress
      rate, maxRate, maxChangeRate, minSelfDelegation, stake
      height := scope.block.height }
  .ok (describe validator m.description)

/-- The validator that a message changes. -/
def editedValidator (scope : Scope) (m : MsgEditValidator) :
    Except Inconsistency Record.Validator := do
  let rate ← Reading.rate m.commissionRate
  let minSelfDelegation ← moduleInteger m.minSelfDelegation
  let validator : Record.Validator :=
    { address := m.validatorAddress
      rate, minSelfDelegation
      height := scope.block.height }
  .ok (describe validator m.description)

/-- Reads a message. -/
def read (scope : Scope) : (kind : Kind) → kind.Body → Except Inconsistency Findings
  | .createValidator, m => do
    let validator ← createdValidator scope m
    .ok
      { addresses := scope.addresses
          [(.delegator, delegatorOf scope.decoder m), (.validator, m.validatorAddress)]
        entities := { validator := some validator } }
  | .editValidator, m => do
    let validator ← editedValidator scope m
    .ok
      { addresses := scope.addresses [(.validator, m.validatorAddress)]
        entities := { validator := some validator } }
  | .delegate, m =>
    .ok (scope.only [(.delegator, m.delegatorAddress), (.validator, m.validatorAddress)])
  | .beginRedelegate, m =>
    .ok (scope.only [(.delegator, m.delegatorAddress), (.validatorSrc, m.validatorSrcAddress),
      (.validatorDst, m.validatorDstAddress)])
  | .undelegate, m =>
    .ok (scope.only [(.delegator, m.delegatorAddress), (.validator, m.validatorAddress)])
  | .cancelUnbondingDelegation, m =>
    .ok (scope.only [(.delegator, m.delegatorAddress), (.validator, m.validatorAddress)])

end ChainRecord.Staking

namespace ChainRecord.Slashing

open Reading

/-- Reads a message. -/
def read (scope : Scope) : (kind : Kind) → kind.Body → Findings
  | .unjail, m => scope.only [(.validator, m.validatorAddr)]

end ChainRecord.Slashing
