import ChainRecord.Schema.Base
import ChainRecord.Schema.Tag

/-!
# Messages of the vesting module

Accounts whose coins become free over time.
-/

namespace ChainRecord.Vesting

/-- Creates an account whose coins become free up to an end, or all at once at the end if delayed.
-/
structure MsgCreateVestingAccount where
  fromAddress : String
  toAddress : String
  amount : List Coin
  endTime : Int64
  delayed : Bool

def MsgCreateVestingAccount.shape : Wire.Shape MsgCreateVestingAccount :=
  .mk "MsgCreateVestingAccount"
    (.cons 1 "from_address" .string <|
      .cons 2 "to_address" .string <|
      .cons 3 "amount" (.messages Coin.shape) <|
      .cons 4 "end_time" .int64 <|
      .cons 5 "delayed" .bool .nil)
    (fun (fromAddress, toAddress, amount, endTime, delayed, _) ↦
      ⟨fromAddress, toAddress, amount, endTime, delayed⟩)
    (fun m ↦ (m.fromAddress, m.toAddress, m.amount, m.endTime, m.delayed, ()))

/-- Creates an account whose coins never become free. -/
structure MsgCreatePermanentLockedAccount where
  fromAddress : String
  toAddress : String
  amount : List Coin

def MsgCreatePermanentLockedAccount.shape : Wire.Shape MsgCreatePermanentLockedAccount :=
  .mk "MsgCreatePermanentLockedAccount"
    (.cons 1 "from_address" .string <|
      .cons 2 "to_address" .string <|
      .cons 3 "amount" (.messages Coin.shape) .nil)
    (fun (fromAddress, toAddress, amount, _) ↦ ⟨fromAddress, toAddress, amount⟩)
    (fun m ↦ (m.fromAddress, m.toAddress, m.amount, ()))

/-- A span in seconds at whose end coins become free. -/
structure Period where
  length : Int64
  amount : List Coin

def Period.shape : Wire.Shape Period :=
  .mk "Period"
    (.cons 1 "length" .int64 <|
      .cons 2 "amount" (.messages Coin.shape) .nil)
    (fun (length, amount, _) ↦ ⟨length, amount⟩)
    (fun m ↦ (m.length, m.amount, ()))

/-- Creates an account whose coins become free period by period. -/
structure MsgCreatePeriodicVestingAccount where
  fromAddress : String
  toAddress : String
  startTime : Int64
  vestingPeriods : List Period

def MsgCreatePeriodicVestingAccount.shape : Wire.Shape MsgCreatePeriodicVestingAccount :=
  .mk "MsgCreatePeriodicVestingAccount"
    (.cons 1 "from_address" .string <|
      .cons 2 "to_address" .string <|
      .cons 3 "start_time" .int64 <|
      .cons 4 "vesting_periods" (.messages Period.shape) .nil)
    (fun (fromAddress, toAddress, startTime, vestingPeriods, _) ↦
      ⟨fromAddress, toAddress, startTime, vestingPeriods⟩)
    (fun m ↦ (m.fromAddress, m.toAddress, m.startTime, m.vestingPeriods, ()))

/-! ### The kinds of messages -/

inductive Kind where
  | createVestingAccount
  | createPermanentLockedAccount
  | createPeriodicVestingAccount
  deriving DecidableEq

namespace Kind

def all : List Kind :=
  [.createVestingAccount, .createPermanentLockedAccount, .createPeriodicVestingAccount]

@[reducible] def Body : Kind → Type
  | .createVestingAccount => MsgCreateVestingAccount
  | .createPermanentLockedAccount => MsgCreatePermanentLockedAccount
  | .createPeriodicVestingAccount => MsgCreatePeriodicVestingAccount

def typeUrl : Kind → String
  | .createVestingAccount => "/cosmos.vesting.v1beta1.MsgCreateVestingAccount"
  | .createPermanentLockedAccount => "/cosmos.vesting.v1beta1.MsgCreatePermanentLockedAccount"
  | .createPeriodicVestingAccount => "/cosmos.vesting.v1beta1.MsgCreatePeriodicVestingAccount"

def tag : Kind → Tag
  | .createVestingAccount => .createVestingAccount
  | .createPermanentLockedAccount => .createPermanentLockedAccount
  | .createPeriodicVestingAccount => .createPeriodicVestingAccount

def shape : (kind : Kind) → Wire.Shape kind.Body
  | .createVestingAccount => MsgCreateVestingAccount.shape
  | .createPermanentLockedAccount => MsgCreatePermanentLockedAccount.shape
  | .createPeriodicVestingAccount => MsgCreatePeriodicVestingAccount.shape

def signers : (kind : Kind) → kind.Body → List String
  | .createVestingAccount, m => [m.fromAddress]
  | .createPermanentLockedAccount, m => [m.fromAddress]
  | .createPeriodicVestingAccount, m => [m.fromAddress]

end Kind

end ChainRecord.Vesting
