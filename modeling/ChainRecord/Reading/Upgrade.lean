import ChainRecord.Reading.Scope

/-!
# Reading messages of the upgrade and signal modules
-/

namespace ChainRecord.Upgrade

open Reading

/-- Reads a message. A plan that is absent is recorded like an empty one. -/
def read (scope : Scope) : (kind : Kind) → kind.Body → Findings
  | .softwareUpgrade, m =>
    let plan := m.plan.getD Plan.shape.absent
    { addresses := scope.addresses [(.authority, m.authority)]
      entities :=
        { upgrade := some
            { signer := m.authority
              kind := .software
              name := plan.name
              info := plan.info
              planHeight := some plan.height
              height := scope.block.height
              time := scope.block.time } } }
  | .cancelUpgrade, m =>
    { addresses := scope.addresses [(.authority, m.authority)]
      entities :=
        { upgrade := some
            { signer := m.authority
              kind := .cancel
              height := scope.block.height
              time := scope.block.time } } }

end ChainRecord.Upgrade

namespace ChainRecord.Signal

open Reading

/-- Reads a message. -/
def read (scope : Scope) : (kind : Kind) → kind.Body → Findings
  | .signalVersion, m =>
    { addresses := scope.addresses [(.validator, m.validatorAddress)]
      entities :=
        { signalVersion := some
            { validator := m.validatorAddress
              version := m.version
              height := scope.block.height
              time := scope.block.time } } }
  | .tryUpgrade, m =>
    { addresses := scope.addresses [(.signer, m.signer)]
      entities :=
        { upgrade := some
            { signer := m.signer
              kind := .attempt
              height := scope.block.height
              time := scope.block.time } } }

end ChainRecord.Signal
