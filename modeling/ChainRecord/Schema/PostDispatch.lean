import ChainRecord.Schema.Base
import ChainRecord.Schema.Tag

/-!
# Messages about post-dispatch hooks

What happens after a message was handed to a mailbox: payment of the gas on the other chain, and
hooks.
-/

namespace ChainRecord.PostDispatch

/-- Exchange rate and gas price of a remote domain. -/
structure GasOracle where
  tokenExchangeRate : String
  gasPrice : String

def GasOracle.shape : Wire.Shape GasOracle :=
  .mk "GasOracle"
    (.cons 1 "token_exchange_rate" .string <|
      .cons 2 "gas_price" .string .nil)
    (fun (tokenExchangeRate, gasPrice, _) ↦ ⟨tokenExchangeRate, gasPrice⟩)
    (fun m ↦ (m.tokenExchangeRate, m.gasPrice, ()))

/-- Gas configuration of a remote domain. -/
structure DestinationGasConfig where
  remoteDomain : UInt32
  gasOracle : Option GasOracle
  gasOverhead : String

def DestinationGasConfig.shape : Wire.Shape DestinationGasConfig :=
  .mk "DestinationGasConfig"
    (.cons 1 "remote_domain" .uint32 <|
      .cons 2 "gas_oracle" (.message GasOracle.shape) <|
      .cons 3 "gas_overhead" .string .nil)
    (fun (remoteDomain, gasOracle, gasOverhead, _) ↦ ⟨remoteDomain, gasOracle, gasOverhead⟩)
    (fun m ↦ (m.remoteDomain, m.gasOracle, m.gasOverhead, ()))

/-- Creates a gas paymaster. -/
structure MsgCreateIgp where
  owner : String
  denom : String

def MsgCreateIgp.shape : Wire.Shape MsgCreateIgp :=
  .mk "MsgCreateIgp"
    (.cons 1 "owner" .string <|
      .cons 2 "denom" .string .nil)
    (fun (owner, denom, _) ↦ ⟨owner, denom⟩)
    (fun m ↦ (m.owner, m.denom, ()))

/-- Changes or gives up the ownership of a paymaster. -/
structure MsgSetIgpOwner where
  owner : String
  igpId : String
  newOwner : String
  renounceOwnership : Bool

def MsgSetIgpOwner.shape : Wire.Shape MsgSetIgpOwner :=
  .mk "MsgSetIgpOwner"
    (.cons 1 "owner" .string <|
      .cons 2 "igp_id" .string <|
      .cons 3 "new_owner" .string <|
      .cons 4 "renounce_ownership" .bool .nil)
    (fun (owner, igpId, newOwner, renounceOwnership, _) ↦
      ⟨owner, igpId, newOwner, renounceOwnership⟩)
    (fun m ↦ (m.owner, m.igpId, m.newOwner, m.renounceOwnership, ()))

/-- Sets the gas configuration of a remote domain. -/
structure MsgSetDestinationGasConfig where
  owner : String
  igpId : String
  destinationGasConfig : Option DestinationGasConfig

def MsgSetDestinationGasConfig.shape : Wire.Shape MsgSetDestinationGasConfig :=
  .mk "MsgSetDestinationGasConfig"
    (.cons 1 "owner" .string <|
      .cons 2 "igp_id" .string <|
      .cons 3 "destination_gas_config" (.message DestinationGasConfig.shape) .nil)
    (fun (owner, igpId, destinationGasConfig, _) ↦ ⟨owner, igpId, destinationGasConfig⟩)
    (fun m ↦ (m.owner, m.igpId, m.destinationGasConfig, ()))

/-- Pays a paymaster for the delivery of a message. -/
structure MsgPayForGas where
  sender : String
  igpId : String
  messageId : String
  destinationDomain : UInt32
  gasLimit : String
  amount : Option Coin

def MsgPayForGas.shape : Wire.Shape MsgPayForGas :=
  .mk "MsgPayForGas"
    (.cons 1 "sender" .string <|
      .cons 2 "igp_id" .string <|
      .cons 3 "message_id" .string <|
      .cons 4 "destination_domain" .uint32 <|
      .cons 5 "gas_limit" .string <|
      .cons 6 "amount" (.message Coin.shape) .nil)
    (fun (sender, igpId, messageId, destinationDomain, gasLimit, amount, _) ↦
      ⟨sender, igpId, messageId, destinationDomain, gasLimit, amount⟩)
    (fun m ↦ (m.sender, m.igpId, m.messageId, m.destinationDomain, m.gasLimit, m.amount, ()))

/-- Withdraws what a paymaster collected. -/
structure MsgClaim where
  sender : String
  igpId : String

def MsgClaim.shape : Wire.Shape MsgClaim :=
  .mk "MsgClaim"
    (.cons 1 "sender" .string <|
      .cons 2 "igp_id" .string .nil)
    (fun (sender, igpId, _) ↦ ⟨sender, igpId⟩)
    (fun m ↦ (m.sender, m.igpId, ()))

/-- Creates a hook that keeps a Merkle tree of a mailbox. -/
structure MsgCreateMerkleTreeHook where
  owner : String
  mailboxId : String

def MsgCreateMerkleTreeHook.shape : Wire.Shape MsgCreateMerkleTreeHook :=
  .mk "MsgCreateMerkleTreeHook"
    (.cons 1 "owner" .string <|
      .cons 2 "mailbox_id" .string .nil)
    (fun (owner, mailboxId, _) ↦ ⟨owner, mailboxId⟩)
    (fun m ↦ (m.owner, m.mailboxId, ()))

/-- Creates a hook that does nothing. -/
structure MsgCreateNoopHook where
  owner : String

def MsgCreateNoopHook.shape : Wire.Shape MsgCreateNoopHook :=
  .mk "MsgCreateNoopHook"
    (.cons 1 "owner" .string .nil)
    (fun (owner, _) ↦ ⟨owner⟩)
    (fun m ↦ (m.owner, ()))

/-! ### The kinds of messages -/

inductive Kind where
  | createIgp
  | setIgpOwner
  | setDestinationGasConfig
  | payForGas
  | claim
  | createMerkleTreeHook
  | createNoopHook
  deriving DecidableEq

namespace Kind

def all : List Kind :=
    [.createIgp, .setIgpOwner, .setDestinationGasConfig, .payForGas, .claim,
    .createMerkleTreeHook, .createNoopHook]

@[reducible] def Body : Kind → Type
  | .createIgp => MsgCreateIgp
  | .setIgpOwner => MsgSetIgpOwner
  | .setDestinationGasConfig => MsgSetDestinationGasConfig
  | .payForGas => MsgPayForGas
  | .claim => MsgClaim
  | .createMerkleTreeHook => MsgCreateMerkleTreeHook
  | .createNoopHook => MsgCreateNoopHook

def typeUrl : Kind → String
  | .createIgp => "/hyperlane.core.post_dispatch.v1.MsgCreateIgp"
  | .setIgpOwner => "/hyperlane.core.post_dispatch.v1.MsgSetIgpOwner"
  | .setDestinationGasConfig => "/hyperlane.core.post_dispatch.v1.MsgSetDestinationGasConfig"
  | .payForGas => "/hyperlane.core.post_dispatch.v1.MsgPayForGas"
  | .claim => "/hyperlane.core.post_dispatch.v1.MsgClaim"
  | .createMerkleTreeHook => "/hyperlane.core.post_dispatch.v1.MsgCreateMerkleTreeHook"
  | .createNoopHook => "/hyperlane.core.post_dispatch.v1.MsgCreateNoopHook"

def tag : Kind → Tag
  | .createIgp => .createIgp
  | .setIgpOwner => .setIgpOwner
  | .setDestinationGasConfig => .setDestinationGasConfig
  | .payForGas => .payForGas
  | .claim => .claim
  | .createMerkleTreeHook => .createMerkleTreeHook
  | .createNoopHook => .createNoopHook

def shape : (kind : Kind) → Wire.Shape kind.Body
  | .createIgp => MsgCreateIgp.shape
  | .setIgpOwner => MsgSetIgpOwner.shape
  | .setDestinationGasConfig => MsgSetDestinationGasConfig.shape
  | .payForGas => MsgPayForGas.shape
  | .claim => MsgClaim.shape
  | .createMerkleTreeHook => MsgCreateMerkleTreeHook.shape
  | .createNoopHook => MsgCreateNoopHook.shape

def signers : (kind : Kind) → kind.Body → List String
  | .createIgp, m => [m.owner]
  | .setIgpOwner, m => [m.owner]
  | .setDestinationGasConfig, m => [m.owner]
  | .payForGas, m => [m.sender]
  | .claim, m => [m.sender]
  | .createMerkleTreeHook, m => [m.owner]
  | .createNoopHook, m => [m.owner]

end Kind

end ChainRecord.PostDispatch
