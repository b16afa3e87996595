import ChainRecord.Decimal.Numeral
import ChainRecord.Schema.Base
import ChainRecord.Settings
import ChainRecord.Text.Quoted

/-!
# Amounts of fees

A fee is paid in one denomination, the native one or the one it is shown in, possibly in several
coins. Its amount is recorded in the native denomination. Amounts of coins are integers: a part of a
display unit is no amount, even where it is a whole number of native units.
-/

namespace ChainRecord.Transaction

/-- Why coins are no fee. -/
inductive FeeError where
  /-- They are of several denominations. -/
  | ambiguous (denominations : Nat)
  /-- They are of a denomination that fees are not paid in. -/
  | unsupportedDenom (denom : String)
  /-- An amount is no integer. -/
  | invalidAmount (text : String)
  deriving DecidableEq, Repr

/-- The text of an error. -/
def FeeError.message : FeeError → String
  | .ambiguous n => "found fee in " ++ toString n ++ " currencies"
  | .unsupportedDenom denom => "unsupported fee denomination: " ++ denom
  | .invalidAmount text => "invalid fee amount: " ++ Text.quote text

/-- The denominations of coins, each once. -/
def denominationsOf (coins : List Coin) : List String :=
  (coins.map (·.denom)).eraseDups

/-- How many places the point of an amount has to be shifted to make it one of the native
denomination. A denomination that is both native and shown is native. -/
def feeExponent (settings : Settings) (denom : String) : Except FeeError Nat :=
  if denom = settings.nativeDenom then .ok 0
  else if denom = settings.displayDenom then .ok settings.displayDenomExponent.toNat
  else .error (.unsupportedDenom denom)

/-- The amount of a coin. -/
def coinAmount (coin : Coin) : Except FeeError Decimal :=
  match Numeral.integer? coin.amount with
  | some n => .ok (Decimal.ofInt n)
  | none => .error (.invalidAmount coin.amount)

/-- The amount of a fee in the native denomination. No coins are no fee. -/
def feeAmount (settings : Settings) (coins : List Coin) : Except FeeError Decimal :=
  match denominationsOf coins with
  | [] => .ok Decimal.zero
  | [denom] => do
    let exponent ← feeExponent settings denom
    let amounts ← coins.mapM coinAmount
    .ok ((Decimal.sum amounts).timesPowerOfTen exponent)
  | denominations => .error (.ambiguous denominations.length)

end ChainRecord.Transaction
