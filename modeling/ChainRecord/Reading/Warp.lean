import ChainRecord.Reading.Scope

/-!
# Reading messages about warp tokens
-/

namespace ChainRecord.Warp

open Reading

/-- What is found when a token is created. -/
def tokenFindings (scope : Scope) (owner mailbox denom : String) (tokenType : Record.TokenType) :
    Findings where
  addresses := scope.addresses [(.owner, owner)]
  entities := { token := some { owner, mailbox, denom, tokenType, height := scope.block.height } }

/-- Reads a message. A synthetic token has no denomination behind it. -/
def read (scope : Scope) : (kind : Kind) → kind.Body → Findings
  | .createCollateralToken, m =>
    tokenFindings scope m.owner m.originMailbox m.originDenom .collateral
  | .createSyntheticToken, m => tokenFindings scope m.owner m.originMailbox "" .synthetic
  | .setToken, m => scope.only [(.owner, m.owner), (.newOwner, m.newOwner)]
  | .enrollRemoteRouter, m => scope.only [(.owner, m.owner)]
  | .unrollRemoteRouter, m => scope.only [(.owner, m.owner)]
  | .remoteTransfer, m => scope.only [(.sender, m.sender)]

end ChainRecord.Warp
