import ChainRecord.Reading.Scope

/-!
# Reading messages about clients and connections

These messages keep the light clients up to date and set up connections between them. The only
address in them is that of the relayer who signs.
-/

namespace ChainRecord.IbcClient

open Reading

/-- Reads a message. -/
def read (scope : Scope) : (kind : Kind) → kind.Body → Findings
  | .createClient, m => scope.only [(.signer, m.signer)]
  | .updateClient, m => scope.only [(.signer, m.signer)]
  | .upgradeClient, m => scope.only [(.signer, m.signer)]
  | .submitMisbehaviour, m => scope.only [(.signer, m.signer)]

end ChainRecord.IbcClient

namespace ChainRecord.IbcConnection

open Reading

/-- Reads a message. -/
def read (scope : Scope) : (kind : Kind) → kind.Body → Findings
  | .openInit, m => scope.only [(.signer, m.signer)]
  | .openTry, m => scope.only [(.signer, m.signer)]
  | .openAck, m => scope.only [(.signer, m.signer)]
  | .openConfirm, m => scope.only [(.signer, m.signer)]

end ChainRecord.IbcConnection
