import ChainRecord.Schema.Base
import ChainRecord.Schema.Tag

/-!
# Messages about transfers between chains

Coins are sent to another chain by a message of their owner. What arrives is a packet.
-/

namespace ChainRecord.IbcTransfer

/-- Sends coins to an account of another chain. -/
structure MsgTransfer where
  sourcePort : String
  sourceChannel : String
  token : Option Coin
  sender : String
  receiver : String
  timeoutHeight : Option Height
  timeoutTimestamp : UInt64
  memo : String

def MsgTransfer.shape : Wire.Shape MsgTransfer :=
  .mk "MsgTransfer"
    (.cons 1 "source_port" .string <|
      .cons 2 "source_channel" .string <|
      .cons 3 "token" (.message Coin.shape) <|
      .cons 4 "sender" .string <|
      .cons 5 "receiver" .string <|
      .cons 6 "timeout_height" (.message Height.shape) <|
      .cons 7 "timeout_timestamp" .uint64 <|
      .cons 8 "memo" .string .nil)
    (fun (sourcePort, sourceChannel, token, sender, receiver, timeoutHeight, timeoutTimestamp,
         memo, _) ↦
      ⟨sourcePort, sourceChannel, token, sender, receiver, timeoutHeight, timeoutTimestamp, memo⟩)
    (fun m ↦
      (m.sourcePort, m.sourceChannel, m.token, m.sender, m.receiver, m.timeoutHeight,
       m.timeoutTimestamp, m.memo, ()))

/-! ### The kinds of messages -/

inductive Kind where
  | transfer
  deriving DecidableEq

namespace Kind

def all : List Kind :=
  [.transfer]

@[reducible] def Body : Kind → Type
  | .transfer => MsgTransfer

def typeUrl : Kind → String
  | .transfer => "/ibc.applications.transfer.v1.MsgTransfer"

def tag : Kind → Tag
  | .transfer => .transfer

def shape : (kind : Kind) → Wire.Shape kind.Body
  | .transfer => MsgTransfer.shape

def signers : (kind : Kind) → kind.Body → List String
  | .transfer, m => [m.sender]

end Kind

end ChainRecord.IbcTransfer
