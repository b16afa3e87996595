import ChainRecord.Schema.Base
import ChainRecord.Schema.Tag

/-!
# Messages of the distribution module

Rewards, commissions and the community pool.
-/

namespace ChainRecord.Distribution

/-- Names the account that receives the rewards of a delegator. -/
structure MsgSetWithdrawAddress where
  delegatorAddress : String
  withdrawAddress : String

def MsgSetWithdrawAddress.shape : Wire.Shape MsgSetWithdrawAddress :=
  .mk "MsgSetWithdrawAddress"
    (.cons 1 "delegator_address" .string <|
      .cons 2 "withdraw_address" .string .nil)
    (fun (delegatorAddress, withdrawAddress, _) ↦ ⟨delegatorAddress, withdrawAddress⟩)
    (fun m ↦ (m.delegatorAddress, m.withdrawAddress, ()))

/-- Withdraws the rewards of a delegator from a validator. -/
structure MsgWithdrawDelegatorReward where
  delegatorAddress : String
  validatorAddress : String

def MsgWithdrawDelegatorReward.shape : Wire.Shape MsgWithdrawDelegatorReward :=
  .mk "MsgWithdrawDelegatorReward"
    (.cons 1 "delegator_address" .string <|
      .cons 2 "validator_address" .string .nil)
    (fun (delegatorAddress, validatorAddress, _) ↦ ⟨delegatorAddress, validatorAddress⟩)
    (fun m ↦ (m.delegatorAddress, m.validatorAddress, ()))

/-- Withdraws the commission of a validator. -/
structure MsgWithdrawValidatorCommission where
  validatorAddress : String

def MsgWithdrawValidatorCommission.shape : Wire.Shape MsgWithdrawValidatorCommission :=
  .mk "MsgWithdrawValidatorCommission"
    (.cons 1 "validator_address" .string .nil)
    (fun (validatorAddress, _) ↦ ⟨validatorAddress⟩)
    (fun m ↦ (m.validatorAddress, ()))

/-- Pays coins into the community pool. -/
structure MsgFundCommunityPool where
  amount : List Coin
  depositor : String

def MsgFundCommunityPool.shape : Wire.Shape MsgFundCommunityPool :=
  .mk "MsgFundCommunityPool"
    (.cons 1 "amount" (.messages Coin.shape) <|
      .cons 2 "depositor" .string .nil)
    (fun (amount, depositor, _) ↦ ⟨amount, depositor⟩)
    (fun m ↦ (m.amount, m.depositor, ()))

/-- Content of a proposal to pay coins out of the community pool. -/
structure CommunityPoolSpendProposal where
  title : String
  description : String
  recipient : String
  amount : List Coin

def CommunityPoolSpendProposal.shape : Wire.Shape CommunityPoolSpendProposal :=
  .mk "CommunityPoolSpendProposal"
    (.cons 1 "title" .string <|
      .cons 2 "description" .string <|
      .cons 3 "recipient" .string <|
      .cons 4 "amount" (.messages Coin.shape) .nil)
    (fun (title, description, recipient, amount, _) ↦ ⟨title, description, recipient, amount⟩)
    (fun m ↦ (m.title, m.description, m.recipient, m.amount, ()))

/-! ### The kinds of messages -/

inductive Kind where
  | setWithdrawAddress
  | withdrawDelegatorReward
  | withdrawValidatorCommission
  | fundCommunityPool
  deriving DecidableEq

namespace Kind

def all : List Kind :=
  [.setWithdrawAddress, .withdrawDelegatorReward, .withdrawValidatorCommission, .fundCommunityPool]

@[reducible] def Body : Kind → Type
  | .setWithdrawAddress => MsgSetWithdrawAddress
  | .withdrawDelegatorReward => MsgWithdrawDelegatorReward
  | .withdrawValidatorCommission => MsgWithdrawValidatorCommission
  | .fundCommunityPool => MsgFundCommunityPool

def typeUrl : Kind → String
  | .setWithdrawAddress => "/cosmos.distribution.v1beta1.MsgSetWithdrawAddress"
  | .withdrawDelegatorReward => "/cosmos.distribution.v1beta1.MsgWithdrawDelegatorReward"
  | .withdrawValidatorCommission => "/cosmos.distribution.v1beta1.MsgWithdrawValidatorCommission"
  | .fundCommunityPool => "/cosmos.distribution.v1beta1.MsgFundCommunityPool"

def tag : Kind → Tag
  | .setWithdrawAddress => .setWithdrawAddress
  | .withdrawDelegatorReward => .withdrawDelegatorReward
  | .withdrawValidatorCommission => .withdrawValidatorCommission
  | .fundCommunityPool => .fundCommunityPool

def shape : (kind : Kind) → Wire.Shape kind.Body
  | .setWithdrawAddress => MsgSetWithdrawAddress.shape
  | .withdrawDelegatorReward => MsgWithdrawDelegatorReward.shape
  | .withdrawValidatorCommission => MsgWithdrawValidatorCommission.shape
  | .fundCommunityPool => MsgFundCommunityPool.shape

def signers : (kind : Kind) → kind.Body → List String
  | .setWithdrawAddress, m => [m.delegatorAddress]
  | .withdrawDelegatorReward, m => [m.delegatorAddress]
  | .withdrawValidatorCommission, m => [m.validatorAddress]
  | .fundCommunityPool, m => [m.depositor]

end Kind

end ChainRecord.Distribution
