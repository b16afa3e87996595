import ChainRecord.Schema.Base
import ChainRecord.Schema.Tag

/-!
# Messages of the staking module

Validators and the stake delegated to them. Rates are texts of integers in units of `10 ^ -18`.
-/

namespace ChainRecord.Staking

/-- How a validator presents itself. -/
structure Description where
  moniker : String
  identity : String
  website : String
  securityContact : String
  details : String

def Description.shape : Wire.Shape Description :=
  .mk "Description"
    (.cons 1 "moniker" .string <|
      .cons 2 "identity" .string <|
      .cons 3 "website" .string <|
      .cons 4 "security_contact" .string <|
      .cons 5 "details" .string .nil)
    (fun (moniker, identity, website, securityContact, details, _) ↦
      ⟨moniker, identity, website, securityContact, details⟩)
    (fun m ↦ (m.moniker, m.identity, m.website, m.securityContact, m.details, ()))

/-- Commission of a validator: the rate, its bound, and the bound of a daily change. -/
structure CommissionRates where
  rate : String
  maxRate : String
  maxChangeRate : String

def CommissionRates.shape : Wire.Shape CommissionRates :=
  .mk "CommissionRates"
    (.cons 1 "rate" .string <|
      .cons 2 "max_rate" .string <|
      .cons 3 "max_change_rate" .string .nil)
    (fun (rate, maxRate, maxChangeRate, _) ↦ ⟨rate, maxRate, maxChangeRate⟩)
    (fun m ↦ (m.rate, m.maxRate, m.maxChangeRate, ()))

/-- Creates a validator. The account that delegates to it first may be left out: it has the bytes
of the validator address. -/
structure MsgCreateValidator where
  description : Option Description
  commission : Option CommissionRates
  minSelfDelegation : String
  delegatorAddress : String
  validatorAddress : String
  pubkey : Option Any
  value : Option Coin

def MsgCreateValidator.shape : Wire.Shape MsgCreateValidator :=
  .mk "MsgCreateValidator"
    (.cons 1 "description" (.message Description.shape) <|
      .cons 2 "commission" (.message CommissionRates.shape) <|
      .cons 3 "min_self_delegation" .string <|
      .cons 4 "delegator_address" .string <|
      .cons 5 "validator_address" .string <|
      .cons 6 "pubkey" (.message Any.shape) <|
      .cons 7 "value" (.message Coin.shape) .nil)
    (fun (description, commission, minSelfDelegation, delegatorAddress, validatorAddress,
         pubkey, value, _) ↦
      ⟨description, commission, minSelfDelegation, delegatorAddress, validatorAddress, pubkey,
       value⟩)
    (fun m ↦
      (m.description, m.commission, m.minSelfDelegation, m.delegatorAddress, m.validatorAddress,
       m.pubkey, m.value, ()))

/-- Changes a validator. An empty rate or minimum is left as it is. -/
structure MsgEditValidator where
  description : Option Description
  validatorAddress : String
  commissionRate : String
  minSelfDelegation : String

def MsgEditValidator.shape : Wire.Shape MsgEditValidator :=
  .mk "MsgEditValidator"
    (.cons 1 "description" (.message Description.shape) <|
      .cons 2 "validator_address" .string <|
      .cons 3 "commission_rate" .string <|
      .cons 4 "min_self_delegation" .string .nil)
    (fun (description, validatorAddress, commissionRate, minSelfDelegation, _) ↦
      ⟨description, validatorAddress, commissionRate, minSelfDelegation⟩)
    (fun m ↦ (m.description, m.validatorAddress, m.commissionRate, m.minSelfDelegation, ()))

/-- Delegates stake to a validator. -/
structure MsgDelegate where
  delegatorAddress : String
  validatorAddress : String
  amount : Option Coin

def MsgDelegate.shape : Wire.Shape MsgDelegate :=
  .mk "MsgDelegate"
    (.cons 1 "delegator_address" .string <|
      .cons 2 "validator_address" .string <|
      .cons 3 "amount" (.message Coin.shape) .nil)
    (fun (delegatorAddress, validatorAddress, amount, _) ↦
      ⟨delegatorAddress, validatorAddress, amount⟩)
    (fun m ↦ (m.delegatorAddress, m.validatorAddress, m.amount, ()))

/-- Moves stake from one validator to another. -/
structure MsgBeginRedelegate where
  delegatorAddress : String
  validatorSrcAddress : String
  validatorDstAddress : String
  amount : Option Coin

def MsgBeginRedelegate.shape : Wire.Shape MsgBeginRedelegate :=
  .mk "MsgBeginRedelegate"
    (.cons 1 "delegator_address" .string <|
      .cons 2 "validator_src_address" .string <|
      .cons 3 "validator_dst_address" .string <|
      .cons 4 "amount" (.message Coin.shape) .nil)
    (fun (delegatorAddress, validatorSrcAddress, validatorDstAddress, amount, _) ↦
      ⟨delegatorAddress, validatorSrcAddress, validatorDstAddress, amount⟩)
    (fun m ↦ (m.delegatorAddress, m.validatorSrcAddress, m.validatorDstAddress, m.amount, ()))

/-- Takes stake back from a validator. -/
structure MsgUndelegate where
  delegatorAddress : String
  validatorAddress : String
  amount : Option Coin

def MsgUndelegate.shape : Wire.Shape MsgUndelegate :=
  .mk "MsgUndelegate"
    (.cons 1 "delegator_address" .string <|
      .cons 2 "validator_address" .string <|
      .cons 3 "amount" (.message Coin.shape) .nil)
    (fun (delegatorAddress, validatorAddress, amount, _) ↦
      ⟨delegatorAddress, validatorAddress, amount⟩)
    (fun m ↦ (m.delegatorAddress, m.validatorAddress, m.amount, ()))

/-- Gives stake that is being taken back to its validator again. -/
structure MsgCancelUnbondingDelegation where
  delegatorAddress : String
  validatorAddress : String
  amount : Option Coin
  creationHeight : Int64

def MsgCancelUnbondingDelegation.shape : Wire.Shape MsgCancelUnbondingDelegation :=
  .mk "MsgCancelUnbondingDelegation"
    (.cons 1 "delegator_address" .string <|
      .cons 2 "validator_address" .string <|
      .cons 3 "amount" (.message Coin.shape) <|
      .cons 4 "creation_height" .int64 .nil)
    (fun (delegatorAddress, validatorAddress, amount, creationHeight, _) ↦
      ⟨delegatorAddress, validatorAddress, amount, creationHeight⟩)
    (fun m ↦ (m.delegatorAddress, m.validatorAddress, m.amount, m.creationHeight, ()))

/-- A list of validators. -/
structure Validators where
  address : List String

def Validators.shape : Wire.Shape Validators :=
  .mk "Validators"
    (.cons 1 "address" .strings .nil)
    (fun (address, _) ↦ ⟨address⟩)
    (fun m ↦ (m.address, ()))

/-- Permission to act on stake, of the kind that the type names. -/
structure StakeAuthorization where
  maxTokens : Option Coin
  allowList : Option Validators
  denyList : Option Validators
  authorizationType : Int32

def StakeAuthorization.shape : Wire.Shape StakeAuthorization :=
  .mk "StakeAuthorization"
    (.cons 1 "max_tokens" (.message Coin.shape) <|
      .cons 2 "allow_list" (.message Validators.shape) <|
      .cons 3 "deny_list" (.message Validators.shape) <|
      .cons 4 "authorization_type" .int32 .nil)
    (fun (maxTokens, allowList, denyList, authorizationType, _) ↦
      ⟨maxTokens, allowList, denyList, authorizationType⟩)
    (fun m ↦ (m.maxTokens, m.allowList, m.denyList, m.authorizationType, ()))

/-! ### The kinds of messages -/

inductive Kind where
  | createValidator
  | editValidator
  | delegate
  | beginRedelegate
  | undelegate
  | cancelUnbondingDelegation
  deriving DecidableEq

namespace Kind

def all : List Kind :=
    [.createValidator, .editValidator, .delegate, .beginRedelegate, .undelegate,
    .cancelUnbondingDelegation]

@[reducible] def Body : Kind → Type
  | .createValidator => MsgCreateValidator
  | .editValidator => MsgEditValidator
  | .delegate => MsgDelegate
  | .beginRedelegate => MsgBeginRedelegate
  | .undelegate => MsgUndelegate
  | .cancelUnbondingDelegation => MsgCancelUnbondingDelegation

def typeUrl : Kind → String
  | .createValidator => "/cosmos.staking.v1beta1.MsgCreateValidator"
  | .editValidator => "/cosmos.staking.v1beta1.MsgEditValidator"
  | .delegate => "/cosmos.staking.v1beta1.MsgDelegate"
  | .beginRedelegate => "/cosmos.staking.v1beta1.MsgBeginRedelegate"
  | .undelegate => "/cosmos.staking.v1beta1.MsgUndelegate"
  | .cancelUnbondingDelegation => "/cosmos.staking.v1beta1.MsgCancelUnbondingDelegation"

def tag : Kind → Tag
  | .createValidator => .createValidator
  | .editValidator => .editValidator
  | .delegate => .delegate
  | .beginRedelegate => .beginRedelegate
  | .undelegate => .undelegate
  | .cancelUnbondingDelegation => .cancelUnbondingDelegation

def shape : (kind : Kind) → Wire.Shape kind.Body
  | .createValidator => MsgCreateValidator.shape
  | .editValidator => MsgEditValidator.shape
  | .delegate => MsgDelegate.shape
  | .beginRedelegate => MsgBeginRedelegate.shape
  | .undelegate => MsgUndelegate.shape
  | .cancelUnbondingDelegation => MsgCancelUnbondingDelegation.shape

def signers : (kind : Kind) → kind.Body → List String
  | .createValidator, m =>
    if m.delegatorAddress.isEmpty then [m.validatorAddress] else [m.delegatorAddress]
  | .editValidator, m => [m.validatorAddress]
  | .delegate, m => [m.delegatorAddress]
  | .beginRedelegate, m => [m.delegatorAddress]
  | .undelegate, m => [m.delegatorAddress]
  | .cancelUnbondingDelegation, m => [m.delegatorAddress]

end Kind

end ChainRecord.Staking
