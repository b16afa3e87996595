import ChainRecord.Reading.Scope

/-!
# Reading messages of the forwarding module
-/

namespace ChainRecord.Forwarding

open Reading

/-- Reads a message. The address that is emptied is recorded besides the signer, who need not own
it. -/
def read (scope : Scope) : (kind : Kind) → kind.Body → Findings
  | .forward, m => scope.only [(.signer, m.signer), (.forwardAddress, m.forwardAddr)]

end ChainRecord.Forwarding
