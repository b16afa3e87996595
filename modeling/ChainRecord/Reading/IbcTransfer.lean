import ChainRecord.Reading.Scope

/-!
# Reading messages about transfers between chains
-/

namespace ChainRecord.IbcTransfer

open Reading

/-- Reads a message. The receiver is mostly an account of another chain; it is recorded only if it
is one of this chain. -/
def read (scope : Scope) : (kind : Kind) → kind.Body → Findings
  | .transfer, m =>
    scope.only ((.sender, m.sender) ::
      if scope.settings.isLocal m.receiver scope.decoder.addressCodec then
        [(.receiver, m.receiver)]
      else [])

end ChainRecord.IbcTransfer
