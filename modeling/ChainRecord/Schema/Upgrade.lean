import ChainRecord.Schema.Base
import ChainRecord.Schema.Tag

/-!
# Messages of the upgrade module

Upgrades of the chain at a planned height, and the contents of proposals for them.
-/

namespace ChainRecord.Upgrade

/-- An upgrade and the height at which it happens. -/
structure Plan where
  name : String
  time : Option Timestamp
  height : Int64
  info : String
  upgradedClientState : Option Any

def Plan.shape : Wire.Shape Plan :=
  .mk "Plan"
    (.cons 1 "name" .string <|
      .cons 2 "time" (.message Timestamp.shape) <|
      .cons 3 "height" .int64 <|
      .cons 4 "info" .string <|
      .cons 5 "upgraded_client_state" (.message Any.shape) .nil)
    (fun (name, time, height, info, upgradedClientState, _) ↦
      ⟨name, time, height, info, upgradedClientState⟩)
    (fun m ↦ (m.name, m.time, m.height, m.info, m.upgradedClientState, ()))

/-- Plans an upgrade. -/
structure MsgSoftwareUpgrade where
  authority : String
  plan : Option Plan

def MsgSoftwareUpgrade.shape : Wire.Shape MsgSoftwareUpgrade :=
  .mk "MsgSoftwareUpgrade"
    (.cons 1 "authority" .string <|
      .cons 2 "plan" (.message Plan.shape) .nil)
    (fun (authority, plan, _) ↦ ⟨authority, plan⟩)
    (fun m ↦ (m.authority, m.plan, ()))

/-- Cancels the planned upgrade. -/
structure MsgCancelUpgrade where
  authority : String

def MsgCancelUpgrade.shape : Wire.Shape MsgCancelUpgrade :=
  .mk "MsgCancelUpgrade"
    (.cons 1 "authority" .string .nil)
    (fun (authority, _) ↦ ⟨authority⟩)
    (fun m ↦ (m.authority, ()))

/-- Content of a proposal for an upgrade. -/
structure SoftwareUpgradeProposal where
  title : String
  description : String
  plan : Option Plan

def SoftwareUpgradeProposal.shape : Wire.Shape SoftwareUpgradeProposal :=
  .mk "SoftwareUpgradeProposal"
    (.cons 1 "title" .string <|
      .cons 2 "description" .string <|
      .cons 3 "plan" (.message Plan.shape) .nil)
    (fun (title, description, plan, _) ↦ ⟨title, description, plan⟩)
    (fun m ↦ (m.title, m.description, m.plan, ()))

/-- Content of a proposal to cancel an upgrade. -/
structure CancelSoftwareUpgradeProposal where
  title : String
  description : String

def CancelSoftwareUpgradeProposal.shape : Wire.Shape CancelSoftwareUpgradeProposal :=
  .mk "CancelSoftwareUpgradeProposal"
    (.cons 1 "title" .string <|
      .cons 2 "description" .string .nil)
    (fun (title, description, _) ↦ ⟨title, description⟩)
    (fun m ↦ (m.title, m.description, ()))

/-! ### The kinds of messages -/

inductive Kind where
  | softwareUpgrade
  | cancelUpgrade
  deriving DecidableEq

namespace Kind

def all : List Kind :=
  [.softwareUpgrade, .cancelUpgrade]

@[reducible] def Body : Kind → Type
  | .softwareUpgrade => MsgSoftwareUpgrade
  | .cancelUpgrade => MsgCancelUpgrade

def typeUrl : Kind → String
  | .softwareUpgrade => "/cosmos.upgrade.v1beta1.MsgSoftwareUpgrade"
  | .cancelUpgrade => "/cosmos.upgrade.v1beta1.MsgCancelUpgrade"

def tag : Kind → Tag
  | .softwareUpgrade => .softwareUpgrade
  | .cancelUpgrade => .cancelUpgrade

def shape : (kind : Kind) → Wire.Shape kind.Body
  | .softwareUpgrade => MsgSoftwareUpgrade.shape
  | .cancelUpgrade => MsgCancelUpgrade.shape

def signers : (kind : Kind) → kind.Body → List String
  | .softwareUpgrade, m => [m.authority]
  | .cancelUpgrade, m => [m.authority]

end Kind

end ChainRecord.Upgrade
