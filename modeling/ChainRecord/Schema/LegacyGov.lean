import ChainRecord.Schema.Base
import ChainRecord.Schema.Tag

/-!
# Messages of the first generation of governance

Proposals with a content of a fixed type, and votes on them. The content of a plain text proposal
and of a change of parameters stand here; the other contents belong to the modules they act on.
-/

namespace ChainRecord.LegacyGov

/-- A share of a vote. -/
structure WeightedVoteOption where
  choice : Int32
  weight : String

def WeightedVoteOption.shape : Wire.Shape WeightedVoteOption :=
  .mk "WeightedVoteOption"
    (.cons 1 "option" .int32 <|
      .cons 2 "weight" .string .nil)
    (fun (choice, weight, _) ↦ ⟨choice, weight⟩)
    (fun m ↦ (m.choice, m.weight, ()))

/-- Content of a proposal that does nothing by itself. -/
structure TextProposal where
  title : String
  description : String

def TextProposal.shape : Wire.Shape TextProposal :=
  .mk "TextProposal"
    (.cons 1 "title" .string <|
      .cons 2 "description" .string .nil)
    (fun (title, description, _) ↦ ⟨title, description⟩)
    (fun m ↦ (m.title, m.description, ()))

/-- Submits a proposal with a content. -/
structure MsgSubmitProposal where
  content : Option Any
  initialDeposit : List Coin
  proposer : String

def MsgSubmitProposal.shape : Wire.Shape MsgSubmitProposal :=
  .mk "MsgSubmitProposal"
    (.cons 1 "content" (.message Any.shape) <|
      .cons 2 "initial_deposit" (.messages Coin.shape) <|
      .cons 3 "proposer" .string .nil)
    (fun (content, initialDeposit, proposer, _) ↦ ⟨content, initialDeposit, proposer⟩)
    (fun m ↦ (m.content, m.initialDeposit, m.proposer, ()))

/-- Votes on a proposal. -/
structure MsgVote where
  proposalId : UInt64
  voter : String
  choice : Int32

def MsgVote.shape : Wire.Shape MsgVote :=
  .mk "MsgVote"
    (.cons 1 "proposal_id" .uint64 <|
      .cons 2 "voter" .string <|
      .cons 3 "option" .int32 .nil)
    (fun (proposalId, voter, choice, _) ↦ ⟨proposalId, voter, choice⟩)
    (fun m ↦ (m.proposalId, m.voter, m.choice, ()))

/-- Splits a vote on a proposal. -/
structure MsgVoteWeighted where
  proposalId : UInt64
  voter : String
  options : List WeightedVoteOption

def MsgVoteWeighted.shape : Wire.Shape MsgVoteWeighted :=
  .mk "MsgVoteWeighted"
    (.cons 1 "proposal_id" .uint64 <|
      .cons 2 "voter" .string <|
      .cons 3 "options" (.messages WeightedVoteOption.shape) .nil)
    (fun (proposalId, voter, options, _) ↦ ⟨proposalId, voter, options⟩)
    (fun m ↦ (m.proposalId, m.voter, m.options, ()))

/-- Adds to the deposit of a proposal. -/
structure MsgDeposit where
  proposalId : UInt64
  depositor : String
  amount : List Coin

def MsgDeposit.shape : Wire.Shape MsgDeposit :=
  .mk "MsgDeposit"
    (.cons 1 "proposal_id" .uint64 <|
      .cons 2 "depositor" .string <|
      .cons 3 "amount" (.messages Coin.shape) .nil)
    (fun (proposalId, depositor, amount, _) ↦ ⟨proposalId, depositor, amount⟩)
    (fun m ↦ (m.proposalId, m.depositor, m.amount, ()))

/-- A change of one parameter. -/
structure ParamChange where
  subspace : String
  key : String
  value : String

def ParamChange.shape : Wire.Shape ParamChange :=
  .mk "ParamChange"
    (.cons 1 "subspace" .string <|
      .cons 2 "key" .string <|
      .cons 3 "value" .string .nil)
    (fun (subspace, key, value, _) ↦ ⟨subspace, key, value⟩)
    (fun m ↦ (m.subspace, m.key, m.value, ()))

/-- Content of a proposal to change parameters. -/
structure ParameterChangeProposal where
  title : String
  description : String
  changes : List ParamChange

def ParameterChangeProposal.shape : Wire.Shape ParameterChangeProposal :=
  .mk "ParameterChangeProposal"
    (.cons 1 "title" .string <|
      .cons 2 "description" .string <|
      .cons 3 "changes" (.messages ParamChange.shape) .nil)
    (fun (title, description, changes, _) ↦ ⟨title, description, changes⟩)
    (fun m ↦ (m.title, m.description, m.changes, ()))

/-! ### The kinds of messages -/

inductive Kind where
  | submitProposal
  | vote
  | voteWeighted
  | deposit
  deriving DecidableEq

namespace Kind

def all : List Kind :=
  [.submitProposal, .vote, .voteWeighted, .deposit]

@[reducible] def Body : Kind → Type
  | .submitProposal => MsgSubmitProposal
  | .vote => MsgVote
  | .voteWeighted => MsgVoteWeighted
  | .deposit => MsgDeposit

def typeUrl : Kind → String
  | .submitProposal => "/cosmos.gov.v1beta1.MsgSubmitProposal"
  | .vote => "/cosmos.gov.v1beta1.MsgVote"
  | .voteWeighted => "/cosmos.gov.v1beta1.MsgVoteWeighted"
  | .deposit => "/cosmos.gov.v1beta1.MsgDeposit"

def tag : Kind → Tag
  | .submitProposal => .submitProposal
  | .vote => .vote
  | .voteWeighted => .voteWeighted
  | .deposit => .deposit

def shape : (kind : Kind) → Wire.Shape kind.Body
  | .submitProposal => MsgSubmitProposal.shape
  | .vote => MsgVote.shape
  | .voteWeighted => MsgVoteWeighted.shape
  | .deposit => MsgDeposit.shape

def signers : (kind : Kind) → kind.Body → List String
  | .submitProposal, m => [m.proposer]
  | .vote, m => [m.voter]
  | .voteWeighted, m => [m.voter]
  | .deposit, m => [m.depositor]

end Kind

end ChainRecord.LegacyGov
