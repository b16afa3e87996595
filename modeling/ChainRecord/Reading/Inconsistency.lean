import ChainRecord.Decimal.Numeral
import ChainRecord.Schema.Base
import ChainRecord.Settings
import ChainRecord.Text.Quoted
import ChainRecord.Time

/-!
# Inconsistent messages

A message that is well formed on the wire can still make no sense: a number is no number, a time is
out of range, a blob has no size. These are the only reasons for which a message is refused, and
each is found by one of the readers here or by the reader of blob payments.
-/

namespace ChainRecord

/-- Why a message makes no sense. -/
inductive Inconsistency where
  /-- A namespace has no blob size. -/
  | blobSizesMismatch (index sizes : Nat)
  /-- A namespace has no bytes. -/
  | emptyNamespace (index : Nat)
  /-- A text is no number. -/
  | invalidDecimal (text : String)
  /-- A time is out of range. -/
  | invalidTimestamp (seconds nanos : Int)
  deriving DecidableEq, Repr

/-- The text of an inconsistency. -/
def Inconsistency.message : Inconsistency → String
  | .blobSizesMismatch index sizes =>
    "blob sizes has " ++ toString sizes ++ " entries, namespace " ++ toString index ++
      " has no size"
  | .emptyNamespace index => "namespace " ++ toString index ++ " is empty"
  | .invalidDecimal text => "invalid decimal: " ++ Text.quote text
  | .invalidTimestamp seconds nanos =>
    "invalid timestamp: " ++ toString seconds ++ "s " ++ toString nanos ++ "ns"

namespace Reading

/-- Reads a module integer. -/
def moduleInteger (text : String) : Except Inconsistency Decimal :=
  match Numeral.moduleInteger? text with
  | some x => .ok x
  | none => .error (.invalidDecimal text)

/-- Reads a rate. -/
def rate (text : String) : Except Inconsistency Decimal :=
  match Numeral.rate? text with
  | some x => .ok x
  | none => .error (.invalidDecimal text)

/-- Reads a time on the wire. -/
def timestamp (value : Timestamp) : Except Inconsistency Time :=
  let seconds := value.seconds.toInt
  let nanos := value.nanos.toInt
  match if nanos < 0 then none else Time.ofUnix? seconds nanos.toNat with
  | some time => .ok time
  | none => .error (.invalidTimestamp seconds nanos)

/-- Reads a time in whole seconds. -/
def unixTime (seconds : Int) : Except Inconsistency Time :=
  match Time.ofUnix? seconds 0 with
  | some time => .ok time
  | none => .error (.invalidTimestamp seconds 0)

/-- Adds up amounts from the left. -/
def addAmounts : Decimal → List Coin → Except Inconsistency Decimal
  | total, [] => .ok total
  | total, coin :: coins => do addAmounts (total + (← moduleInteger coin.amount)) coins

/-- The sum of the coins of the native denomination. The other coins do not count, whatever their
amounts are. -/
def nativeAmount (settings : Settings) (coins : List Coin) : Except Inconsistency Decimal :=
  addAmounts Decimal.zero (coins.filter fun coin ↦ coin.denom = settings.nativeDenom)

end Reading

end ChainRecord
