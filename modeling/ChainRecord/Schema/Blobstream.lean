import ChainRecord.Schema.Tag
import ChainRecord.Wire.Shape

/-!
# Messages of the blobstream module

Validators register the address they sign with on another chain.
-/

namespace ChainRecord.Blobstream

/-- Registers the address of a validator on another chain. -/
structure MsgRegisterEvmAddress where
  validatorAddress : String
  evmAddress : String

def MsgRegisterEvmAddress.shape : Wire.Shape MsgRegisterEvmAddress :=
  .mk "MsgRegisterEvmAddress"
    (.cons 1 "validator_address" .string <|
      .cons 2 "evm_address" .string .nil)
    (fun (validatorAddress, evmAddress, _) ↦ ⟨validatorAddress, evmAddress⟩)
    (fun m ↦ (m.validatorAddress, m.evmAddress, ()))

/-! ### The kinds of messages -/

inductive Kind where
  | registerEvmAddress
  deriving DecidableEq

namespace Kind

def all : List Kind :=
  [.registerEvmAddress]

@[reducible] def Body : Kind → Type
  | .registerEvmAddress => MsgRegisterEvmAddress

def typeUrl : Kind → String
  | .registerEvmAddress => "/celestia.qgb.v1.MsgRegisterEVMAddress"

def tag : Kind → Tag
  | .registerEvmAddress => .registerEvmAddress

def shape : (kind : Kind) → Wire.Shape kind.Body
  | .registerEvmAddress => MsgRegisterEvmAddress.shape

def signers : (kind : Kind) → kind.Body → List String
  | .registerEvmAddress, m => [m.validatorAddress]

end Kind

end ChainRecord.Blobstream
