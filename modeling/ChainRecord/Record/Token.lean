/-!
# Records of warp tokens
-/

namespace ChainRecord.Record

/-- What stands behind a token. -/
inductive TokenType where
  /-- A local denomination. -/
  | collateral
  /-- Nothing: it is minted. -/
  | synthetic
  deriving DecidableEq

/-- The name of a type. -/
def TokenType.name : TokenType → String
  | .collateral => "collateral"
  | .synthetic => "synthetic"

/-- A token that was created. -/
structure Token where
  owner : String
  mailbox : String
  /-- The local denomination of a collateral token, empty for a synthetic one. -/
  denom : String
  tokenType : TokenType
  height : UInt64

end ChainRecord.Record
