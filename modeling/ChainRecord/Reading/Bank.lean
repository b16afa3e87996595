import ChainRecord.Reading.Scope

/-!
# Reading messages of the bank module
-/

namespace ChainRecord.Bank

open Reading

/-- Reads a message. Of several transfers all inputs come before all outputs. -/
def read (scope : Scope) : (kind : Kind) → kind.Body → Findings
  | .send, m => scope.only [(.fromAddress, m.fromAddress), (.toAddress, m.toAddress)]
  | .multiSend, m =>
    scope.only (m.inputs.map (fun input ↦ (.input, input.address)) ++
      m.outputs.map (fun output ↦ (.output, output.address)))

end ChainRecord.Bank
