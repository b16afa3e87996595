import ChainRecord.Bytes
import ChainRecord.Json
import ChainRecord.SortedPairs

/-!
# Compact JSON text

One text per value: no blanks, each key once and in increasing order, and only those characters
escaped that have to be.

Doubles are written with the fewest digits that read back. From `0.00001` up to `10 ^ 16` they are
written in positional form with at least one place behind the point; outside that range the point
follows the first digit, and a signed exponent follows.
-/

namespace ChainRecord.Json

/-- The form of one character inside a string. -/
def escapeChar (c : Char) : List Char :=
  if c = '"' then ['\\', '"']
  else if c = '\\' then ['\\', '\\']
  else if c = '\x08' then ['\\', 'b']
  else if c = '\x0c' then ['\\', 'f']
  else if c = '\n' then ['\\', 'n']
  else if c = '\r' then ['\\', 'r']
  else if c = '\t' then ['\\', 't']
  else if c.toNat < 32 then
    ['\\', 'u', '0', '0', Hex.digit (c.toNat / 16), Hex.digit (c.toNat % 16)]
  else [c]

/-- A string in quotes. -/
def quoteString (s : String) : String :=
  String.ofList ('"' :: s.toList.flatMap escapeChar ++ ['"'])

/-- A positive double in positional form. -/
def positional (form : Binary64.DigitForm) : List Char :=
  let count : Int := form.digits.length
  if form.point ≤ 0 then '0' :: '.' :: List.replicate (-form.point).toNat '0' ++ form.digits
  else if count ≤ form.point then
    form.digits ++ List.replicate (form.point - count).toNat '0' ++ ['.', '0']
  else form.digits.take form.point.toNat ++ '.' :: form.digits.drop form.point.toNat

/-- A positive double with an exponent. -/
def scientific (form : Binary64.DigitForm) : List Char :=
  let exponent := form.point - 1
  let fraction := match form.digits.drop 1 with
    | [] => []
    | places => '.' :: places
  form.digits.take 1 ++ fraction ++
    'e' :: (if exponent < 0 then '-' else '+') :: Nat.toDigits 10 exponent.natAbs

/-- The text of a magnitude. -/
def magnitudeText (x : Binary64) : List Char :=
  if x.mantissa = 0 then ['0', '.', '0']
  else
    let form := x.shortest
    if -5 < form.point ∧ form.point ≤ 16 then positional form else scientific form

/-- The text of a number. -/
def Number.text : Number → String
  | .int n => toString n
  | .double negative x =>
    String.ofList (if negative then '-' :: magnitudeText x else magnitudeText x)

mutual

/-- The text of a value. -/
def text : Json → String
  | .null => "null"
  | .bool b => if b then "true" else "false"
  | .number n => n.text
  | .string s => quoteString s
  | .array items => "[" ++ String.intercalate "," (itemTexts items) ++ "]"
  | .object members =>
    let sorted := SortedPairs.ofList (memberTexts members)
    "\x7b" ++ String.intercalate "," (sorted.map fun (key, value) ↦ quoteString key ++ ":" ++ value)
      ++ "\x7d"

/-- The texts of the items of an array. -/
def itemTexts : List Json → List String
  | [] => []
  | item :: rest => item.text :: itemTexts rest

/-- The texts of the members of an object. -/
def memberTexts : List (String × Json) → List (String × String)
  | [] => []
  | (key, value) :: rest => (key, value.text) :: memberTexts rest

end

end ChainRecord.Json
