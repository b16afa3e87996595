import ChainRecord.Attributes.CoinAmount
import ChainRecord.Json.Printer
import ChainRecord.Time.Calendar

/-!
# Attributes

Event logs and packets carry attributes as members of a JSON object, in which numbers may be written
as numbers or as strings. An attribute is therefore its text first: a string is its own text, null
and a missing key are the empty text, and any other value is its JSON text.

An empty text stands for the zero value of what is asked for. A text that has no value is an error.
-/

namespace ChainRecord.Attributes

/-- The text of an attribute. -/
def text (members : Json.Members) (key : String) : String :=
  match Json.lookup? members key with
  | some (.string s) => s
  | some .null | none => ""
  | some value => value.text

/-- An amount. A unit behind it, as in `1000utia`, is dropped; no amount in front of it is zero. -/
def decimal (members : Json.Members) (key : String) : Except AttributeError Decimal :=
  let value := text members key
  match CoinAmount.splitAmount value.toList with
  | ([], _) => .ok Decimal.zero
  | (amount, _) =>
    match Numeral.decimalOfChars? amount with
    | some x => .ok x
    | none => .error (.invalidDecimal value)

/-- A coin. -/
def coin (members : Json.Members) (key : String) : Except AttributeError (Option CoinAmount) :=
  let value := text members key
  if value.isEmpty then .ok none else (CoinAmount.ofText value).map some

/-- An integer of a range. -/
def integer (range : IntegerRange) (members : Json.Members) (key : String) :
    Except AttributeError Int :=
  let value := text members key
  if value.isEmpty then .ok 0 else (range.read value).mapError .invalidInteger

/-- A point in time. -/
def time (members : Json.Members) (key : String) : Except AttributeError (Option Time) :=
  let value := text members key
  if value.isEmpty then .ok none
  else
    match Time.ofInternetFormat? value with
    | some t => .ok (some t)
    | none => .error (.invalidTime value)

end ChainRecord.Attributes
