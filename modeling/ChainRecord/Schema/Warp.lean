import ChainRecord.Schema.Base
import ChainRecord.Schema.Tag

/-!
# Messages about warp tokens

Tokens that move between chains through a mailbox: collateral tokens are backed by a local
denomination, synthetic ones are minted.
-/

namespace ChainRecord.Warp

/-- Creates a token backed by a local denomination. -/
structure MsgCreateCollateralToken where
  owner : String
  originMailbox : String
  originDenom : String

def MsgCreateCollateralToken.shape : Wire.Shape MsgCreateCollateralToken :=
  .mk "MsgCreateCollateralToken"
    (.cons 1 "owner" .string <|
      .cons 2 "origin_mailbox" .string <|
      .cons 3 "origin_denom" .string .nil)
    (fun (owner, originMailbox, originDenom, _) ↦ ⟨owner, originMailbox, originDenom⟩)
    (fun m ↦ (m.owner, m.originMailbox, m.originDenom, ()))

/-- Creates a token that is minted. -/
structure MsgCreateSyntheticToken where
  owner : String
  originMailbox : String

def MsgCreateSyntheticToken.shape : Wire.Shape MsgCreateSyntheticToken :=
  .mk "MsgCreateSyntheticToken"
    (.cons 1 "owner" .string <|
      .cons 2 "origin_mailbox" .string .nil)
    (fun (owner, originMailbox, _) ↦ ⟨owner, originMailbox⟩)
    (fun m ↦ (m.owner, m.originMailbox, ()))

/-- Changes the security module or the owner of a token. -/
structure MsgSetToken where
  owner : String
  tokenId : String
  newOwner : String
  ismId : String
  renounceOwnership : Bool

def MsgSetToken.shape : Wire.Shape MsgSetToken :=
  .mk "MsgSetToken"
    (.cons 1 "owner" .string <|
      .cons 2 "token_id" .string <|
      .cons 3 "new_owner" .string <|
      .cons 4 "ism_id" .string <|
      .cons 5 "renounce_ownership" .bool .nil)
    (fun (owner, tokenId, newOwner, ismId, renounceOwnership, _) ↦
      ⟨owner, tokenId, newOwner, ismId, renounceOwnership⟩)
    (fun m ↦ (m.owner, m.tokenId, m.newOwner, m.ismId, m.renounceOwnership, ()))

/-- The contract of a token on a remote domain. -/
structure RemoteRouter where
  receiverDomain : UInt32
  receiverContract : String
  gas : String

def RemoteRouter.shape : Wire.Shape RemoteRouter :=
  .mk "RemoteRouter"
    (.cons 1 "receiver_domain" .uint32 <|
      .cons 2 "receiver_contract" .string <|
      .cons 3 "gas" .string .nil)
    (fun (receiverDomain, receiverContract, gas, _) ↦ ⟨receiverDomain, receiverContract, gas⟩)
    (fun m ↦ (m.receiverDomain, m.receiverContract, m.gas, ()))

/-- Enters the contract of a token on a remote domain. -/
structure MsgEnrollRemoteRouter where
  owner : String
  tokenId : String
  remoteRouter : Option RemoteRouter

def MsgEnrollRemoteRouter.shape : Wire.Shape MsgEnrollRemoteRouter :=
  .mk "MsgEnrollRemoteRouter"
    (.cons 1 "owner" .string <|
      .cons 2 "token_id" .string <|
      .cons 3 "remote_router" (.message RemoteRouter.shape) .nil)
    (fun (owner, tokenId, remoteRouter, _) ↦ ⟨owner, tokenId, remoteRouter⟩)
    (fun m ↦ (m.owner, m.tokenId, m.remoteRouter, ()))

/-- Removes the contract of a token on a remote domain. -/
structure MsgUnrollRemoteRouter where
  owner : String
  tokenId : String
  receiverDomain : UInt32

def MsgUnrollRemoteRouter.shape : Wire.Shape MsgUnrollRemoteRouter :=
  .mk "MsgUnrollRemoteRouter"
    (.cons 1 "owner" .string <|
      .cons 2 "token_id" .string <|
      .cons 3 "receiver_domain" .uint32 .nil)
    (fun (owner, tokenId, receiverDomain, _) ↦ ⟨owner, tokenId, receiverDomain⟩)
    (fun m ↦ (m.owner, m.tokenId, m.receiverDomain, ()))

/-- Sends tokens to a recipient on a remote domain. -/
structure MsgRemoteTransfer where
  sender : String
  tokenId : String
  destinationDomain : UInt32
  recipient : String
  amount : String
  customHookId : String
  gasLimit : String
  maxFee : Option Coin
  customHookMetadata : String

def MsgRemoteTransfer.shape : Wire.Shape MsgRemoteTransfer :=
  .mk "MsgRemoteTransfer"
    (.cons 1 "sender" .string <|
      .cons 2 "token_id" .string <|
      .cons 3 "destination_domain" .uint32 <|
      .cons 4 "recipient" .string <|
      .cons 5 "amount" .string <|
      .cons 6 "custom_hook_id" .string <|
      .cons 7 "gas_limit" .string <|
      .cons 8 "max_fee" (.message Coin.shape) <|
      .cons 9 "custom_hook_metadata" .string .nil)
    (fun (sender, tokenId, destinationDomain, recipient, amount, customHookId, gasLimit,
         maxFee, customHookMetadata, _) ↦
      ⟨sender, tokenId, destinationDomain, recipient, amount, customHookId, gasLimit, maxFee,
       customHookMetadata⟩)
    (fun m ↦
      (m.sender, m.tokenId, m.destinationDomain, m.recipient, m.amount, m.customHookId,
       m.gasLimit, m.maxFee, m.customHookMetadata, ()))

/-! ### The kinds of messages -/

inductive Kind where
  | createCollateralToken
  | createSyntheticToken
  | setToken
  | enrollRemoteRouter
  | unrollRemoteRouter
  | remoteTransfer
  deriving DecidableEq

namespace Kind

def all : List Kind :=
    [.createCollateralToken, .createSyntheticToken, .setToken, .enrollRemoteRouter,
    .unrollRemoteRouter, .remoteTransfer]

@[reducible] def Body : Kind → Type
  | .createCollateralToken => MsgCreateCollateralToken
  | .createSyntheticToken => MsgCreateSyntheticToken
  | .setToken => MsgSetToken
  | .enrollRemoteRouter => MsgEnrollRemoteRouter
  | .unrollRemoteRouter => MsgUnrollRemoteRouter
  | .remoteTransfer => MsgRemoteTransfer

def typeUrl : Kind → String
  | .createCollateralToken => "/hyperlane.warp.v1.MsgCreateCollateralToken"
  | .createSyntheticToken => "/hyperlane.warp.v1.MsgCreateSyntheticToken"
  | .setToken => "/hyperlane.warp.v1.MsgSetToken"
  | .enrollRemoteRouter => "/hyperlane.warp.v1.MsgEnrollRemoteRouter"
  | .unrollRemoteRouter => "/hyperlane.warp.v1.MsgUnrollRemoteRouter"
  | .remoteTransfer => "/hyperlane.warp.v1.MsgRemoteTransfer"

def tag : Kind → Tag
  | .createCollateralToken => .createCollateralToken
  | .createSyntheticToken => .createSyntheticToken
  | .setToken => .setToken
  | .enrollRemoteRouter => .enrollRemoteRouter
  | .unrollRemoteRouter => .unrollRemoteRouter
  | .remoteTransfer => .remoteTransfer

def shape : (kind : Kind) → Wire.Shape kind.Body
  | .createCollateralToken => MsgCreateCollateralToken.shape
  | .createSyntheticToken => MsgCreateSyntheticToken.shape
  | .setToken => MsgSetToken.shape
  | .enrollRemoteRouter => MsgEnrollRemoteRouter.shape
  | .unrollRemoteRouter => MsgUnrollRemoteRouter.shape
  | .remoteTransfer => MsgRemoteTransfer.shape

def signers : (kind : Kind) → kind.Body → List String
  | .createCollateralToken, m => [m.owner]
  | .createSyntheticToken, m => [m.owner]
  | .setToken, m => [m.owner]
  | .enrollRemoteRouter, m => [m.owner]
  | .unrollRemoteRouter, m => [m.owner]
  | .remoteTransfer, m => [m.sender]

end Kind

end ChainRecord.Warp
