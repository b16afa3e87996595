import ChainRecord.Json.Binary64

/-!
# JSON values

An object keeps its members in written order, repeated keys included. What a key is bound to is
its last member (`Json.lookup?`); the printer writes each key once, in increasing order.
-/

namespace ChainRecord

/-- A number: an integer, or any other number at double precision. -/
inductive Json.Number where
  /-- An integer that was written without a fraction and an exponent. -/
  | int (n : Int)
  /-- A double and its sign, which zero has too. -/
  | double (negative : Bool) (magnitude : Binary64)
  deriving DecidableEq, Repr

/-- A JSON value. -/
inductive Json where
  /-- The null value. -/
  | null
  /-- A truth value. -/
  | bool (b : Bool)
  /-- A number. -/
  | number (n : Json.Number)
  /-- A string. -/
  | string (s : String)
  /-- An array. -/
  | array (items : List Json)
  /-- An object, by its members in written order. -/
  | object (members : List (String × Json))
  deriving Inhabited, Repr

namespace Json

/-- Members of an object. -/
abbrev Members := List (String × Json)

/-- An integer. -/
def ofInt (n : Int) : Json := .number (.int n)

/-- What a key is bound to: its last member. -/
def lookup? (members : Members) (key : String) : Option Json :=
  (members.reverse.find? fun member ↦ member.1 = key).map Prod.snd

/-- Whether a key is bound. -/
def hasKey (members : Members) (key : String) : Bool :=
  members.any fun member ↦ member.1 = key

end Json

end ChainRecord
