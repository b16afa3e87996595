import ChainRecord.Schema.Base
import ChainRecord.Schema.Tag

/-!
# Messages about interchain accounts

An account on one chain is controlled from another one: transactions for it travel as packets.
-/

namespace ChainRecord.InterchainAccounts

/-- A transaction for an interchain account, its type and a memo. -/
structure InterchainAccountPacketData where
  packetType : Int32
  data : Bytes
  memo : String

def InterchainAccountPacketData.shape : Wire.Shape InterchainAccountPacketData :=
  .mk "InterchainAccountPacketData"
    (.cons 1 "type" .int32 <|
      .cons 2 "data" .bytes <|
      .cons 3 "memo" .string .nil)
    (fun (packetType, data, memo, _) ↦ ⟨packetType, data, memo⟩)
    (fun m ↦ (m.packetType, m.data, m.memo, ()))

/-- The messages of such a transaction. -/
structure CosmosTx where
  messages : List Any

def CosmosTx.shape : Wire.Shape CosmosTx :=
  .mk "CosmosTx"
    (.cons 1 "messages" (.messages Any.shape) .nil)
    (fun (messages, _) ↦ ⟨messages⟩)
    (fun m ↦ (m.messages, ()))

/-- Registers an account on another chain. -/
structure MsgRegisterInterchainAccount where
  owner : String
  connectionId : String
  version : String
  ordering : Int32

def MsgRegisterInterchainAccount.shape : Wire.Shape MsgRegisterInterchainAccount :=
  .mk "MsgRegisterInterchainAccount"
    (.cons 1 "owner" .string <|
      .cons 2 "connection_id" .string <|
      .cons 3 "version" .string <|
      .cons 4 "ordering" .int32 .nil)
    (fun (owner, connectionId, version, ordering, _) ↦ ⟨owner, connectionId, version, ordering⟩)
    (fun m ↦ (m.owner, m.connectionId, m.version, m.ordering, ()))

/-- Sends a transaction to an account on another chain. -/
structure MsgSendTx where
  owner : String
  connectionId : String
  packetData : Option InterchainAccountPacketData
  relativeTimeout : UInt64

def MsgSendTx.shape : Wire.Shape MsgSendTx :=
  .mk "MsgSendTx"
    (.cons 1 "owner" .string <|
      .cons 2 "connection_id" .string <|
      .cons 3 "packet_data" (.message InterchainAccountPacketData.shape) <|
      .cons 4 "relative_timeout" .uint64 .nil)
    (fun (owner, connectionId, packetData, relativeTimeout, _) ↦
      ⟨owner, connectionId, packetData, relativeTimeout⟩)
    (fun m ↦ (m.owner, m.connectionId, m.packetData, m.relativeTimeout, ()))

/-! ### The kinds of messages -/

inductive Kind where
  | register
  | sendTx
  deriving DecidableEq

namespace Kind

def all : List Kind :=
  [.register, .sendTx]

@[reducible] def Body : Kind → Type
  | .register => MsgRegisterInterchainAccount
  | .sendTx => MsgSendTx

def typeUrl : Kind → String
  | .register => "/ibc.applications.interchain_accounts.controller.v1.MsgRegisterInterchainAccount"
  | .sendTx => "/ibc.applications.interchain_accounts.controller.v1.MsgSendTx"

def tag : Kind → Tag
  | .register => .registerInterchainAccount
  | .sendTx => .sendTx

def shape : (kind : Kind) → Wire.Shape kind.Body
  | .register => MsgRegisterInterchainAccount.shape
  | .sendTx => MsgSendTx.shape

def signers : (kind : Kind) → kind.Body → List String
  | .register, m => [m.owner]
  | .sendTx, m => [m.owner]

end Kind

end ChainRecord.InterchainAccounts
