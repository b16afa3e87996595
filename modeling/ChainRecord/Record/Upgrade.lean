import ChainRecord.Time

/-!
# Records of upgrades

Upgrades are planned by governance or called for by validators. Their records carry the time of the
block and not one of a plan.
-/

namespace ChainRecord.Record

/-- A validator signals for a version. -/
structure SignalVersion where
  validator : String
  version : UInt64
  height : UInt64
  time : Time

/-- What is done about an upgrade. -/
inductive UpgradeKind where
  /-- An upgrade to the version signalled for is tried. -/
  | attempt
  /-- An upgrade is planned. -/
  | software
  /-- The planned upgrade is cancelled. -/
  | cancel
  deriving DecidableEq

/-- The name of a kind. -/
def UpgradeKind.name : UpgradeKind → String
  | .attempt => "try"
  | .software => "software"
  | .cancel => "cancel"

/-- An upgrade. -/
structure Upgrade where
  signer : String
  kind : UpgradeKind
  name : String := ""
  info : String := ""
  planHeight : Option Int64 := none
  height : UInt64
  time : Time

end ChainRecord.Record
