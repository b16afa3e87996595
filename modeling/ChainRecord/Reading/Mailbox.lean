import ChainRecord.Reading.Scope

/-!
# Reading messages about mailboxes, security modules and hooks

A message that hands something over records both owners. Who renounces ownership leaves the new
owner empty, which is recorded like any other text.
-/

namespace ChainRecord.Mailbox

open Reading

/-- Reads a message. -/
def read (scope : Scope) : (kind : Kind) → kind.Body → Findings
  | .create, m => scope.only [(.owner, m.owner)]
  | .set, m => scope.only [(.owner, m.owner), (.newOwner, m.newOwner)]
  | .process, m => scope.only [(.relayer, m.relayer)]

end ChainRecord.Mailbox

namespace ChainRecord.SecurityModule

open Reading

/-- Reads a message. -/
def read (scope : Scope) : (kind : Kind) → kind.Body → Findings
  | .createMessageIdMultisig, m => scope.only [(.creator, m.creator)]
  | .createMerkleRootMultisig, m => scope.only [(.creator, m.creator)]
  | .createNoop, m => scope.only [(.creator, m.creator)]
  | .announceValidator, m => scope.only [(.creator, m.creator)]
  | .createRouting, m => scope.only [(.creator, m.creator)]
  | .setRoutingDomain, m => scope.only [(.owner, m.owner)]
  | .removeRoutingDomain, m => scope.only [(.owner, m.owner)]
  | .updateRoutingOwner, m => scope.only [(.owner, m.owner), (.newOwner, m.newOwner)]

end ChainRecord.SecurityModule

namespace ChainRecord.PostDispatch

open Reading

/-- Reads a message. -/
def read (scope : Scope) : (kind : Kind) → kind.Body → Findings
  | .createIgp, m => scope.only [(.owner, m.owner)]
  | .setIgpOwner, m => scope.only [(.owner, m.owner), (.newOwner, m.newOwner)]
  | .setDestinationGasConfig, m => scope.only [(.owner, m.owner)]
  | .payForGas, m => scope.only [(.sender, m.sender)]
  | .claim, m => scope.only [(.sender, m.sender)]
  | .createMerkleTreeHook, m => scope.only [(.owner, m.owner)]
  | .createNoopHook, m => scope.only [(.owner, m.owner)]

end ChainRecord.PostDispatch
