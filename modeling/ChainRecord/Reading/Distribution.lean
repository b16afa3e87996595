import ChainRecord.Reading.Scope

/-!
# Reading messages of the distribution module
-/

namespace ChainRecord.Distribution

open Reading

/-- Reads a message. -/
def read (scope : Scope) : (kind : Kind) → kind.Body → Findings
  | .setWithdrawAddress, m =>
    scope.only [(.delegator, m.delegatorAddress), (.withdrawAddress, m.withdrawAddress)]
  | .withdrawDelegatorReward, m =>
    scope.only [(.delegator, m.delegatorAddress), (.validator, m.validatorAddress)]
  | .withdrawValidatorCommission, m => scope.only [(.validator, m.validatorAddress)]
  | .fundCommunityPool, m => scope.only [(.depositor, m.depositor)]

end ChainRecord.Distribution
