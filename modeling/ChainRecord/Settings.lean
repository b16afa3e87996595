import ChainRecord.Json.Reader

/-!
# Settings

What the reader of a chain has to be told about it. Every setting has a default.

Settings are given as a JSON object, or as an array of values in the order of the fields, which may
stop early. An unknown field, a field given twice, a null and a number that is no integer in range
are refused: a setting that is not understood is never replaced by its default.
-/

namespace ChainRecord

/-- Settings of a chain. -/
structure Settings where
  /-- Human readable part of account addresses. -/
  addressPrefix : String := "celestia"
  /-- Human readable part of validator operator addresses. -/
  validatorPrefix : String := "celestiavaloper"
  /-- The denomination amounts are kept in. -/
  nativeDenom : String := "utia"
  /-- The denomination amounts are shown in, which fees may use too. -/
  displayDenom : String := "tia"
  /-- One display unit is ten to this power native units. -/
  displayDenomExponent : UInt32 := 6
  /-- Destination port of packets that carry transactions of interchain accounts. -/
  icaHostPort : String := "icahost"
  /-- How many levels of wrapped messages are decoded. -/
  maxNestingDepth : UInt64 := 2
  deriving DecidableEq, Repr

namespace Settings

/-- A setting that is a text. -/
def textOf? : Json → Option String
  | .string s => some s
  | _ => none

/-- A setting that is a number up to `high`. -/
def numberOf? (high : Int) : Json → Option Int
  | .number (.int n) => if 0 ≤ n ∧ n ≤ high then some n else none
  | _ => none

/-- Names of the fields, in order. -/
def fieldNames : List String :=
  ["address_prefix", "validator_prefix", "native_denom", "display_denom", "display_denom_exponent",
    "ica_host_port", "max_nesting_depth"]

/-- Sets one field. -/
def set? (settings : Settings) (field : String) (value : Json) : Option Settings :=
  if field = "address_prefix" then
    (textOf? value).map fun s ↦ { settings with addressPrefix := s }
  else if field = "validator_prefix" then
    (textOf? value).map fun s ↦ { settings with validatorPrefix := s }
  else if field = "native_denom" then
    (textOf? value).map fun s ↦ { settings with nativeDenom := s }
  else if field = "display_denom" then
    (textOf? value).map fun s ↦ { settings with displayDenom := s }
  else if field = "display_denom_exponent" then
    (numberOf? 0xffffffff value).map fun n ↦
      { settings with displayDenomExponent := UInt32.ofNat n.toNat }
  else if field = "ica_host_port" then
    (textOf? value).map fun s ↦ { settings with icaHostPort := s }
  else if field = "max_nesting_depth" then
    (numberOf? 0xffffffffffffffff value).map fun n ↦
      { settings with maxNestingDepth := UInt64.ofNat n.toNat }
  else none

/-- Sets fields one after the other. -/
def setAll? (settings : Settings) (values : Json.Members) : Option Settings :=
  values.foldlM (fun settings (field, value) ↦ settings.set? field value) settings

/-- Whether no key occurs twice. -/
def hasDistinctKeys (members : Json.Members) : Bool :=
  (members.map Prod.fst).eraseDups.length = members.length

/-- Reads settings from a value. -/
def ofJson? : Json → Option Settings
  | .object members =>
    if hasDistinctKeys members then ({} : Settings).setAll? members else none
  | .array values =>
    if values.length ≤ fieldNames.length then ({} : Settings).setAll? (fieldNames.zip values)
    else none
  | _ => none

/-- Reads settings from a text. -/
def ofText? (text : String) : Option Settings :=
  (Json.ofText? text).bind ofJson?

end Settings

end ChainRecord
