import ChainRecord.Json
import ChainRecord.Time

/-!
# Records of grants

A permission or a fee allowance that one account gives another one or takes back from it.
-/

namespace ChainRecord.Record

/-- A grant that was given or revoked. -/
structure Grant where
  height : UInt64
  time : Time
  granter : String
  grantee : String
  /-- The type URL of the messages that are permitted; empty for a permission of an unknown type. -/
  authorization : String
  /-- When the grant expires, if it does. -/
  expiration : Option Time
  revoked : Bool
  revokeHeight : Option UInt64
  /-- The field map of the permission. -/
  params : Json.Members

/-- What stands in place of the type URL for a fee allowance. -/
def Grant.feeAuthorization : String := "fee"

end ChainRecord.Record
