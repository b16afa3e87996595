import ChainRecord.Reading.Scope

/-!
# Reading messages about zero-knowledge security modules
-/

namespace ChainRecord.ZkIsm

open Reading

/-- Reads a message. Who creates a module is its creator; who moves it forward or submits messages
to it only signs. -/
def read (scope : Scope) : (kind : Kind) → kind.Body → Findings
  | .createExecution, m => scope.only [(.creator, m.creator)]
  | .updateExecution, m => scope.only [(.signer, m.signer)]
  | .submitMessages, m => scope.only [(.signer, m.signer)]

end ChainRecord.ZkIsm
