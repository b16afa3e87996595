import ChainRecord.Schema.Tag
import ChainRecord.Wire.Shape

/-!
# Messages of the signal module

Upgrades that happen once enough validators signal for a version.
-/

namespace ChainRecord.Signal

/-- Signals that a validator is ready for a version. -/
structure MsgSignalVersion where
  validatorAddress : String
  version : UInt64

def MsgSignalVersion.shape : Wire.Shape MsgSignalVersion :=
  .mk "MsgSignalVersion"
    (.cons 1 "validator_address" .string <|
      .cons 2 "version" .uint64 .nil)
    (fun (validatorAddress, version, _) ↦ ⟨validatorAddress, version⟩)
    (fun m ↦ (m.validatorAddress, m.version, ()))

/-- Asks to upgrade to the version that is signalled for. -/
structure MsgTryUpgrade where
  signer : String

def MsgTryUpgrade.shape : Wire.Shape MsgTryUpgrade :=
  .mk "MsgTryUpgrade"
    (.cons 1 "signer" .string .nil)
    (fun (signer, _) ↦ ⟨signer⟩)
    (fun m ↦ (m.signer, ()))

/-! ### The kinds of messages -/

inductive Kind where
  | signalVersion
  | tryUpgrade
  deriving DecidableEq

namespace Kind

def all : List Kind :=
  [.signalVersion, .tryUpgrade]

@[reducible] def Body : Kind → Type
  | .signalVersion => MsgSignalVersion
  | .tryUpgrade => MsgTryUpgrade

def typeUrl : Kind → String
  | .signalVersion => "/celestia.signal.v1.MsgSignalVersion"
  | .tryUpgrade => "/celestia.signal.v1.MsgTryUpgrade"

def tag : Kind → Tag
  | .signalVersion => .signalVersion
  | .tryUpgrade => .tryUpgrade

def shape : (kind : Kind) → Wire.Shape kind.Body
  | .signalVersion => MsgSignalVersion.shape
  | .tryUpgrade => MsgTryUpgrade.shape

def signers : (kind : Kind) → kind.Body → List String
  | .signalVersion, m => [m.validatorAddress]
  | .tryUpgrade, m => [m.signer]

end Kind

end ChainRecord.Signal
