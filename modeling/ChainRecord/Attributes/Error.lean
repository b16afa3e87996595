import ChainRecord.Decimal.Bounded
import ChainRecord.Text.Quoted

/-!
# Faults of attributes

Why the text of an attribute has no value of the kind that was asked for.
-/

namespace ChainRecord

/-- Why a text has no value. -/
inductive AttributeError where
  /-- It is no integer of the range. -/
  | invalidInteger (fault : IntegerFault)
  /-- It does not begin with a decimal numeral. -/
  | invalidDecimal (text : String)
  /-- It is no amount with a denomination. -/
  | invalidCoin (text : String)
  /-- It is no point in time. -/
  | invalidTime (text : String)
  deriving DecidableEq, Repr

/-- The text of an error. What is wrong with an integer is not said. -/
def AttributeError.message : AttributeError → String
  | .invalidInteger _ => "parse error: invalid integer"
  | .invalidDecimal text => "parse error: invalid decimal " ++ Text.quote text
  | .invalidCoin text => "parse error: invalid coin " ++ Text.quote text
  | .invalidTime text => "parse error: invalid time " ++ Text.quote text

end ChainRecord
