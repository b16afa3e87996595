import ChainRecord.Decimal
import ChainRecord.Json
import ChainRecord.Time

/-!
# Records of proposals

Both generations of governance are recorded alike. The number of a proposal is assigned by the
chain when the message is executed, so in the record it is zero.
-/

namespace ChainRecord.Record

/-- Where a proposal stands. -/
inductive ProposalStatus where
  | inactive
  | active
  | applied
  | rejected
  | removed
  deriving DecidableEq

/-- The name of a status. -/
def ProposalStatus.name : ProposalStatus → String
  | .inactive => "inactive"
  | .active => "active"
  | .applied => "applied"
  | .rejected => "rejected"
  | .removed => "removed"

/-- What a proposal is for. -/
inductive ProposalType where
  | text
  | paramChanged
  | communityPoolSpend
  | clientUpdate
  | softwareUpgrade
  | cancelSoftwareUpgrade
  /-- The execution of messages without a type of their own here. -/
  | messages
  deriving DecidableEq

/-- The name of a type. -/
def ProposalType.name : ProposalType → String
  | .text => "text"
  | .paramChanged => "param_changed"
  | .communityPoolSpend => "community_pool_spend"
  | .clientUpdate => "client_update"
  | .softwareUpgrade => "software_upgrade"
  | .cancelSoftwareUpgrade => "cancel_software_upgrade"
  | .messages => "messages"

/-- A proposal that was submitted. -/
structure Proposal where
  id : UInt64 := 0
  height : UInt64
  proposer : String
  createdAt : Time
  status : ProposalStatus := .inactive
  proposalType : ProposalType
  title : String
  description : String
  metadata : String
  /-- The initial deposit in the native denomination. -/
  deposit : Decimal
  changes : Option Json
  expedited : Bool

end ChainRecord.Record
