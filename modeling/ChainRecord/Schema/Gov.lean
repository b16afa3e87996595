import ChainRecord.Schema.Base
import ChainRecord.Schema.Tag

/-!
# Messages of the governance module

Proposals that execute messages, and votes on them. A content of the first generation of governance
is executed by a message of its own.
-/

namespace ChainRecord.Gov

/-- A share of a vote. -/
structure WeightedVoteOption where
  choice : Int32
  weight : String

def WeightedVoteOption.shape : Wire.Shape WeightedVoteOption :=
  .mk "WeightedVoteOption"
    (.cons 1 "option" .int32 <|
      .cons 2 "weight" .string .nil)
    (fun (choice, weight, _) ↦ ⟨choice, weight⟩)
    (fun m ↦ (m.choice, m.weight, ()))

/-- Submits a proposal to execute messages. -/
structure MsgSubmitProposal where
  messages : List Any
  initialDeposit : List Coin
  proposer : String
  metadata : String
  title : String
  summary : String
  expedited : Bool

def MsgSubmitProposal.shape : Wire.Shape MsgSubmitProposal :=
  .mk "MsgSubmitProposal"
    (.cons 1 "messages" (.messages Any.shape) <|
      .cons 2 "initial_deposit" (.messages Coin.shape) <|
      .cons 3 "proposer" .string <|
      .cons 4 "metadata" .string <|
      .cons 5 "title" .string <|
      .cons 6 "summary" .string <|
      .cons 7 "expedited" .bool .nil)
    (fun (messages, initialDeposit, proposer, metadata, title, summary, expedited, _) ↦
      ⟨messages, initialDeposit, proposer, metadata, title, summary, expedited⟩)
    (fun m ↦
      (m.messages, m.initialDeposit, m.proposer, m.metadata, m.title, m.summary, m.expedited, ()))

/-- Executes a content of the first generation. -/
structure MsgExecLegacyContent where
  content : Option Any
  authority : String

def MsgExecLegacyContent.shape : Wire.Shape MsgExecLegacyContent :=
  .mk "MsgExecLegacyContent"
    (.cons 1 "content" (.message Any.shape) <|
      .cons 2 "authority" .string .nil)
    (fun (content, authority, _) ↦ ⟨content, authority⟩)
    (fun m ↦ (m.content, m.authority, ()))

/-- Votes on a proposal. -/
structure MsgVote where
  proposalId : UInt64
  voter : String
  choice : Int32
  metadata : String

def MsgVote.shape : Wire.Shape MsgVote :=
  .mk "MsgVote"
    (.cons 1 "proposal_id" .uint64 <|
      .cons 2 "voter" .string <|
      .cons 3 "option" .int32 <|
      .cons 4 "metadata" .string .nil)
    (fun (proposalId, voter, choice, metadata, _) ↦ ⟨proposalId, voter, choice, metadata⟩)
    (fun m ↦ (m.proposalId, m.voter, m.choice, m.metadata, ()))

/-- Splits a vote on a proposal. -/
structure MsgVoteWeighted where
  proposalId : UInt64
  voter : String
  options : List WeightedVoteOption
  metadata : String

def MsgVoteWeighted.shape : Wire.Shape MsgVoteWeighted :=
  .mk "MsgVoteWeighted"
    (.cons 1 "proposal_id" .uint64 <|
      .cons 2 "voter" .string <|
      .cons 3 "options" (.messages WeightedVoteOption.shape) <|
      .cons 4 "metadata" .string .nil)
    (fun (proposalId, voter, options, metadata, _) ↦ ⟨proposalId, voter, options, metadata⟩)
    (fun m ↦ (m.proposalId, m.voter, m.options, m.metadata, ()))

/-- Adds to the deposit of a proposal. -/
structure MsgDeposit where
  proposalId : UInt64
  depositor : String
  amount : List Coin

def MsgDeposit.shape : Wire.Shape MsgDeposit :=
  .mk "MsgDeposit"
    (.cons 1 "proposal_id" .uint64 <|
      .cons 2 "depositor" .string <|
      .cons 3 "amount" (.messages Coin.shape) .nil)
    (fun (proposalId, depositor, amount, _) ↦ ⟨proposalId, depositor, amount⟩)
    (fun m ↦ (m.proposalId, m.depositor, m.amount, ()))

/-- Withdraws a proposal. -/
structure MsgCancelProposal where
  proposalId : UInt64
  proposer : String

def MsgCancelProposal.shape : Wire.Shape MsgCancelProposal :=
  .mk "MsgCancelProposal"
    (.cons 1 "proposal_id" .uint64 <|
      .cons 2 "proposer" .string .nil)
    (fun (proposalId, proposer, _) ↦ ⟨proposalId, proposer⟩)
    (fun m ↦ (m.proposalId, m.proposer, ()))

/-! ### The kinds of messages -/

inductive Kind where
  | submitProposal
  | execLegacyContent
  | vote
  | voteWeighted
  | deposit
  | cancelProposal
  deriving DecidableEq

namespace Kind

def all : List Kind :=
  [.submitProposal, .execLegacyContent, .vote, .voteWeighted, .deposit, .cancelProposal]

@[reducible] def Body : Kind → Type
  | .submitProposal => MsgSubmitProposal
  | .execLegacyContent => MsgExecLegacyContent
  | .vote => MsgVote
  | .voteWeighted => MsgVoteWeighted
  | .deposit => MsgDeposit
  | .cancelProposal => MsgCancelProposal

def typeUrl : Kind → String
  | .submitProposal => "/cosmos.gov.v1.MsgSubmitProposal"
  | .execLegacyContent => "/cosmos.gov.v1.MsgExecLegacyContent"
  | .vote => "/cosmos.gov.v1.MsgVote"
  | .voteWeighted => "/cosmos.gov.v1.MsgVoteWeighted"
  | .deposit => "/cosmos.gov.v1.MsgDeposit"
  | .cancelProposal => "/cosmos.gov.v1.MsgCancelProposal"

def tag : Kind → Tag
  | .submitProposal => .submitProposal
  | .execLegacyContent => .execLegacyContent
  | .vote => .vote
  | .voteWeighted => .voteWeighted
  | .deposit => .deposit
  | .cancelProposal => .cancelProposal

def shape : (kind : Kind) → Wire.Shape kind.Body
  | .submitProposal => MsgSubmitProposal.shape
  | .execLegacyContent => MsgExecLegacyContent.shape
  | .vote => MsgVote.shape
  | .voteWeighted => MsgVoteWeighted.shape
  | .deposit => MsgDeposit.shape
  | .cancelProposal => MsgCancelProposal.shape

def signers : (kind : Kind) → kind.Body → List String
  | .submitProposal, m => [m.proposer]
  | .execLegacyContent, m => [m.authority]
  | .vote, m => [m.voter]
  | .voteWeighted, m => [m.voter]
  | .deposit, m => [m.depositor]
  | .cancelProposal, m => [m.proposer]

end Kind

end ChainRecord.Gov
