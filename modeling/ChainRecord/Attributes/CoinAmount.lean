import ChainRecord.Attributes.Error
import ChainRecord.Text.Blank

/-!
# Amounts with a denomination

A coin is written as an amount with the denomination behind it, as in `10utia`, and a list of coins
as its members with commas between them. The amount is the longest beginning of digits, points and
minus signs: a denomination does not begin with one of these. Blanks around a coin and empty places
of a list do not count.
-/

namespace ChainRecord

/-- An amount of a denomination. -/
structure CoinAmount where
  amount : Decimal
  denom : String
  deriving DecidableEq, Repr

namespace CoinAmount

/-- Whether a character belongs to an amount. -/
def isAmountChar (c : Char) : Bool :=
  c.isDigit || c = '.' || c = '-'

/-- The amount at the front of a text, and what is behind it. -/
def splitAmount (cs : List Char) : List Char × List Char :=
  cs.span isAmountChar

/-- Reads a coin without blanks around it. -/
def ofChars? (cs : List Char) : Option CoinAmount :=
  match splitAmount cs with
  | (_, []) => none
  | (amount, denom) => (Numeral.decimalOfChars? amount).map (⟨·, String.ofList denom⟩)

/-- Reads a coin. -/
def ofText (text : String) : Except AttributeError CoinAmount :=
  match ofChars? (Text.trimChars text.toList) with
  | some coin => .ok coin
  | none => .error (.invalidCoin text)

/-- Places of a list, between its commas. -/
def placesOf : List Char → List (List Char)
  | [] => [[]]
  | c :: cs =>
    if c = ',' then [] :: placesOf cs
    else
      match placesOf cs with
      | [] => [[c]]
      | place :: places => (c :: place) :: places

/-- The texts of the members of a list. -/
def itemsOf (text : String) : List String :=
  (((placesOf text.toList).map Text.trimChars).filter (!·.isEmpty)).map String.ofList

/-- Reads a list of coins. -/
def listOfText (text : String) : Except AttributeError (List CoinAmount) :=
  (itemsOf text).mapM ofText

end CoinAmount

end ChainRecord
