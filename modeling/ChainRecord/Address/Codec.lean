import ChainRecord.Address

/-!
# Forms of addresses

A chain may write its addresses in a form of its own. Of a form it is only known how a text is read
and how bytes are written under a human readable part; nothing says that one undoes the other. Those
of `AddressCodec.bech32` are the addresses with a checksum.
-/

namespace ChainRecord

/-- A form of addresses. -/
structure AddressCodec where
  /-- What a text denotes, if it is an address. -/
  decode : String → Option Address
  /-- The address of bytes under a human readable part. -/
  encode : String → Bytes → Except Address.WriteError String

namespace AddressCodec

/-- Addresses with a checksum, as most chains write them. -/
def bech32 : AddressCodec where
  decode := Address.ofText?
  encode := Address.toText

@[simp] theorem bech32_decode (text : String) : bech32.decode text = Address.ofText? text := rfl

@[simp] theorem bech32_encode (humanPart : String) (bytes : Bytes) :
    bech32.encode humanPart bytes = Address.toText humanPart bytes := rfl

end AddressCodec

end ChainRecord
