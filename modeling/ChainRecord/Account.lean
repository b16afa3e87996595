import ChainRecord.Address.Codec
import ChainRecord.Settings

/-!
# Accounts of a chain

Addresses as a chain with given settings sees them, in a form that it is free to choose. Validators
have addresses with a human readable part of their own; the account of a validator is the address
with the same bytes.
-/

namespace ChainRecord

/-- The bytes of an address, none for a text that is no address. -/
def AddressCodec.hashOf (codec : AddressCodec) (address : String) : Bytes :=
  match codec.decode address with
  | some a => a.bytes
  | none => []

namespace Settings

/-- Whether a text is an account address of this chain. -/
def isLocal (settings : Settings) (address : String) (codec : AddressCodec := .bech32) : Bool :=
  match codec.decode address with
  | some a => a.humanPart == settings.addressPrefix
  | none => false

/-- The account address with the bytes of an address. -/
def accountOf? (settings : Settings) (address : String) (codec : AddressCodec := .bech32) :
    Option String := do
  let a ← codec.decode address
  (codec.encode settings.addressPrefix a.bytes).toOption

end Settings

end ChainRecord
