import ChainRecord.Record.Grant
import ChainRecord.Record.Namespace
import ChainRecord.Record.Proposal
import ChainRecord.Record.Token
import ChainRecord.Record.Transfer
import ChainRecord.Record.Upgrade
import ChainRecord.Record.Validator
import ChainRecord.Record.Vesting

/-!
# What a message brings about

The records of all the things that a message creates or changes when its transaction is executed.
-/

namespace ChainRecord.Record

/-- Things that a message creates or changes. -/
structure Entities where
  namespaces : List Namespace := []
  grant : Option Grant := none
  proposal : Option Proposal := none
  validator : Option Validator := none
  transfer : Option Transfer := none
  channel : Option Channel := none
  signalVersion : Option SignalVersion := none
  upgrade : Option Upgrade := none
  token : Option Token := none
  vestingAccount : Option VestingAccount := none

namespace Entities

/-- Nothing. -/
def empty : Entities := {}

/-- Whether there is nothing. -/
def isEmpty (e : Entities) : Bool :=
  e.namespaces.isEmpty && e.grant.isNone && e.proposal.isNone && e.validator.isNone &&
    e.transfer.isNone && e.channel.isNone && e.signalVersion.isNone && e.upgrade.isNone &&
    e.token.isNone && e.vestingAccount.isNone

end Entities

end ChainRecord.Record
