import ChainRecord.Decoder
import ChainRecord.SortedPairs

/-!
# Signers of a transaction

A transaction is signed by accounts. Where a message names a validator as its signer, the account of
the validator signs, so the addresses of validators are replaced by those of their accounts. A text
that is no address stands for itself, without bytes; empty texts are left out.
-/

namespace ChainRecord.Transaction

/-- The account of a signer with its bytes. -/
def signerEntry (d : Decoder) (signer : String) : String × Bytes :=
  match d.addressCodec.decode signer with
  | none => (signer, [])
  | some a =>
    if a.humanPart = d.settings.validatorPrefix then
      match d.addressCodec.encode d.settings.addressPrefix a.bytes with
      | .ok account => (account, a.bytes)
      | .error _ => (signer, a.bytes)
    else (signer, a.bytes)

/-- The accounts of signers with their bytes, in order and each once. -/
def signersOf (d : Decoder) (signers : List String) : List (String × Bytes) :=
  SortedPairs.ofList ((signers.filter (!·.isEmpty)).map (signerEntry d))

end ChainRecord.Transaction
