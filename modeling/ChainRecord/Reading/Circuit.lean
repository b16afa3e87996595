import ChainRecord.Reading.Scope

/-!
# Reading messages of the circuit breaker
-/

namespace ChainRecord.Circuit

open Reading

/-- Reads a message. -/
def read (scope : Scope) : (kind : Kind) → kind.Body → Findings
  | .authorize, m => scope.only [(.granter, m.granter), (.grantee, m.grantee)]
  | .trip, m => scope.only [(.authority, m.authority)]
  | .reset, m => scope.only [(.authority, m.authority)]

end ChainRecord.Circuit
