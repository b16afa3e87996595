import ChainRecord.Schema.Tag
import ChainRecord.Wire.Shape

/-!
# Messages of the slashing module

A validator that was jailed asks to be released.
-/

namespace ChainRecord.Slashing

/-- Releases a jailed validator. -/
structure MsgUnjail where
  validatorAddr : String

def MsgUnjail.shape : Wire.Shape MsgUnjail :=
  .mk "MsgUnjail"
    (.cons 1 "validator_addr" .string .nil)
    (fun (validatorAddr, _) ↦ ⟨validatorAddr⟩)
    (fun m ↦ (m.validatorAddr, ()))

/-! ### The kinds of messages -/

inductive Kind where
  | unjail
  deriving DecidableEq

namespace Kind

def all : List Kind :=
  [.unjail]

@[reducible] def Body : Kind → Type
  | .unjail => MsgUnjail

def typeUrl : Kind → String
  | .unjail => "/cosmos.slashing.v1beta1.MsgUnjail"

def tag : Kind → Tag
  | .unjail => .unjail

def shape : (kind : Kind) → Wire.Shape kind.Body
  | .unjail => MsgUnjail.shape

def signers : (kind : Kind) → kind.Body → List String
  | .unjail, m => [m.validatorAddr]

end Kind

end ChainRecord.Slashing
