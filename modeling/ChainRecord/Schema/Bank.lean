import ChainRecord.Schema.Base
import ChainRecord.Schema.Tag

/-!
# Messages of the bank module

Transfers of coins between accounts.
-/

namespace ChainRecord.Bank

/-- Sends coins from one account to another. -/
structure MsgSend where
  fromAddress : String
  toAddress : String
  amount : List Coin

def MsgSend.shape : Wire.Shape MsgSend :=
  .mk "MsgSend"
    (.cons 1 "from_address" .string <|
      .cons 2 "to_address" .string <|
      .cons 3 "amount" (.messages Coin.shape) .nil)
    (fun (fromAddress, toAddress, amount, _) ↦ ⟨fromAddress, toAddress, amount⟩)
    (fun m ↦ (m.fromAddress, m.toAddress, m.amount, ()))

/-- An account that gives coins. -/
structure Input where
  address : String
  coins : List Coin

def Input.shape : Wire.Shape Input :=
  .mk "Input"
    (.cons 1 "address" .string <|
      .cons 2 "coins" (.messages Coin.shape) .nil)
    (fun (address, coins, _) ↦ ⟨address, coins⟩)
    (fun m ↦ (m.address, m.coins, ()))

/-- An account that receives coins. -/
structure Output where
  address : String
  coins : List Coin

def Output.shape : Wire.Shape Output :=
  .mk "Output"
    (.cons 1 "address" .string <|
      .cons 2 "coins" (.messages Coin.shape) .nil)
    (fun (address, coins, _) ↦ ⟨address, coins⟩)
    (fun m ↦ (m.address, m.coins, ()))

/-- Moves coins from several accounts to several others. -/
structure MsgMultiSend where
  inputs : List Input
  outputs : List Output

def MsgMultiSend.shape : Wire.Shape MsgMultiSend :=
  .mk "MsgMultiSend"
    (.cons 1 "inputs" (.messages Input.shape) <|
      .cons 2 "outputs" (.messages Output.shape) .nil)
    (fun (inputs, outputs, _) ↦ ⟨inputs, outputs⟩)
    (fun m ↦ (m.inputs, m.outputs, ()))

/-- Permission to send coins up to a limit, to listed accounts if any are listed. -/
structure SendAuthorization where
  spendLimit : List Coin
  allowList : List String

def SendAuthorization.shape : Wire.Shape SendAuthorization :=
  .mk "SendAuthorization"
    (.cons 1 "spend_limit" (.messages Coin.shape) <|
      .cons 2 "allow_list" .strings .nil)
    (fun (spendLimit, allowList, _) ↦ ⟨spendLimit, allowList⟩)
    (fun m ↦ (m.spendLimit, m.allowList, ()))

/-! ### The kinds of messages -/

inductive Kind where
  | send
  | multiSend
  deriving DecidableEq

namespace Kind

def all : List Kind :=
  [.send, .multiSend]

@[reducible] def Body : Kind → Type
  | .send => MsgSend
  | .multiSend => MsgMultiSend

def typeUrl : Kind → String
  | .send => "/cosmos.bank.v1beta1.MsgSend"
  | .multiSend => "/cosmos.bank.v1beta1.MsgMultiSend"

def tag : Kind → Tag
  | .send => .send
  | .multiSend => .multiSend

def shape : (kind : Kind) → Wire.Shape kind.Body
  | .send => MsgSend.shape
  | .multiSend => MsgMultiSend.shape

def signers : (kind : Kind) → kind.Body → List String
  | .send, m => [m.fromAddress]
  | .multiSend, m => m.inputs.map (·.address)

end Kind

end ChainRecord.Bank
