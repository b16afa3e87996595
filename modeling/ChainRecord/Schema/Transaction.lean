import ChainRecord.Schema.Base

/-!
# Transactions on the wire

A transaction is a body with its messages, the information that authorizes it, and signatures.
-/

namespace ChainRecord.Transaction

/-- What all signers sign: messages, a memo, and a height after which they are void. -/
structure TxBody where
  messages : List Any
  memo : String
  timeoutHeight : UInt64
  extensionOptions : List Any
  nonCriticalExtensionOptions : List Any

def TxBody.shape : Wire.Shape TxBody :=
  .mk "TxBody"
    (.cons 1 "messages" (.messages Any.shape) <|
      .cons 2 "memo" .string <|
      .cons 3 "timeout_height" .uint64 <|
      .cons 1023 "extension_options" (.messages Any.shape) <|
      .cons 2047 "non_critical_extension_options" (.messages Any.shape) .nil)
    (fun (messages, memo, timeoutHeight, extensionOptions, nonCriticalExtensionOptions, _) ↦
      ⟨messages, memo, timeoutHeight, extensionOptions, nonCriticalExtensionOptions⟩)
    (fun m ↦
      (m.messages, m.memo, m.timeoutHeight, m.extensionOptions, m.nonCriticalExtensionOptions,
       ()))

/-- How a single signer signs. -/
structure Single where
  mode : Int32

def Single.shape : Wire.Shape Single :=
  .mk "Single"
    (.cons 1 "mode" .int32 .nil)
    (fun (mode, _) ↦ ⟨mode⟩)
    (fun m ↦ (m.mode, ()))

/-- How a signer signs. Of several signers acting as one nothing is read. -/
structure ModeInfo where
  single : Option Single

def ModeInfo.shape : Wire.Shape ModeInfo :=
  .mk "ModeInfo"
    (.cons 1 "single" (.message Single.shape) .nil)
    (fun (single, _) ↦ ⟨single⟩)
    (fun m ↦ (m.single, ()))

/-- A signer, how it signs, and how often it has signed. -/
structure SignerInfo where
  publicKey : Option Any
  modeInfo : Option ModeInfo
  sequence : UInt64

def SignerInfo.shape : Wire.Shape SignerInfo :=
  .mk "SignerInfo"
    (.cons 1 "public_key" (.message Any.shape) <|
      .cons 2 "mode_info" (.message ModeInfo.shape) <|
      .cons 3 "sequence" .uint64 .nil)
    (fun (publicKey, modeInfo, sequence, _) ↦ ⟨publicKey, modeInfo, sequence⟩)
    (fun m ↦ (m.publicKey, m.modeInfo, m.sequence, ()))

/-- Coins paid as a fee, the gas they buy, and who pays. -/
structure Fee where
  amount : List Coin
  gasLimit : UInt64
  payer : String
  granter : String

def Fee.shape : Wire.Shape Fee :=
  .mk "Fee"
    (.cons 1 "amount" (.messages Coin.shape) <|
      .cons 2 "gas_limit" .uint64 <|
      .cons 3 "payer" .string <|
      .cons 4 "granter" .string .nil)
    (fun (amount, gasLimit, payer, granter, _) ↦ ⟨amount, gasLimit, payer, granter⟩)
    (fun m ↦ (m.amount, m.gasLimit, m.payer, m.granter, ()))

/-- Coins paid as a tip. -/
structure Tip where
  amount : List Coin
  tipper : String

def Tip.shape : Wire.Shape Tip :=
  .mk "Tip"
    (.cons 1 "amount" (.messages Coin.shape) <|
      .cons 2 "tipper" .string .nil)
    (fun (amount, tipper, _) ↦ ⟨amount, tipper⟩)
    (fun m ↦ (m.amount, m.tipper, ()))

/-- Who signs a transaction and what is paid for it. -/
structure AuthInfo where
  signerInfos : List SignerInfo
  fee : Option Fee
  tip : Option Tip

def AuthInfo.shape : Wire.Shape AuthInfo :=
  .mk "AuthInfo"
    (.cons 1 "signer_infos" (.messages SignerInfo.shape) <|
      .cons 2 "fee" (.message Fee.shape) <|
      .cons 3 "tip" (.message Tip.shape) .nil)
    (fun (signerInfos, fee, tip, _) ↦ ⟨signerInfos, fee, tip⟩)
    (fun m ↦ (m.signerInfos, m.fee, m.tip, ()))

/-- A transaction. -/
structure Tx where
  body : Option TxBody
  authInfo : Option AuthInfo
  signatures : List Bytes

def Tx.shape : Wire.Shape Tx :=
  .mk "Tx"
    (.cons 1 "body" (.message TxBody.shape) <|
      .cons 2 "auth_info" (.message AuthInfo.shape) <|
      .cons 3 "signatures" (.texts .bytes) .nil)
    (fun (body, authInfo, signatures, _) ↦ ⟨body, authInfo, signatures⟩)
    (fun m ↦ (m.body, m.authInfo, m.signatures, ()))

end ChainRecord.Transaction
