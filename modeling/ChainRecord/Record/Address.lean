import ChainRecord.Bytes
import ChainRecord.Decimal

/-!
# Records of addresses

An address that occurs in a message is recorded with the role it plays there and the block it was
seen in. The balance is a place for archives to fill: it is zero in the native denomination.
-/

namespace ChainRecord.Record

/-- The role of an address in a message. -/
inductive Role where
  | signer
  | sender
  | receiver
  | delegator
  | validator
  | validatorSrc
  | validatorDst
  | granter
  | grantee
  | depositor
  | voter
  | proposer
  | authority
  | owner
  | newOwner
  | relayer
  | fromAddress
  | toAddress
  | input
  | output
  | withdrawAddress
  | creator
  | pruner
  | forwardAddress
  deriving DecidableEq

namespace Role

/-- All roles. -/
def all : List Role :=
  [.signer, .sender, .receiver, .delegator, .validator, .validatorSrc, .validatorDst, .granter,
    .grantee, .depositor, .voter, .proposer, .authority, .owner, .newOwner, .relayer, .fromAddress,
    .toAddress, .input, .output, .withdrawAddress, .creator, .pruner, .forwardAddress]

/-- The name of a role. -/
def name : Role → String
  | .signer => "signer"
  | .sender => "sender"
  | .receiver => "receiver"
  | .delegator => "delegator"
  | .validator => "validator"
  | .validatorSrc => "validator_src"
  | .validatorDst => "validator_dst"
  | .granter => "granter"
  | .grantee => "grantee"
  | .depositor => "depositor"
  | .voter => "voter"
  | .proposer => "proposer"
  | .authority => "authority"
  | .owner => "owner"
  | .newOwner => "new_owner"
  | .relayer => "relayer"
  | .fromAddress => "from_address"
  | .toAddress => "to_address"
  | .input => "input"
  | .output => "output"
  | .withdrawAddress => "withdraw_address"
  | .creator => "creator"
  | .pruner => "pruner"
  | .forwardAddress => "forward_address"

/-- The role of a name. -/
def ofName? (name : String) : Option Role :=
  all.find? fun role ↦ role.name = name

end Role

/-- An amount of a currency that an address holds. -/
structure Balance where
  currency : String
  total : Decimal

/-- An address in a message. -/
structure Address where
  role : Role
  /-- The text, as it stands in the message. -/
  address : String
  /-- The bytes of the address, none if the text is no address. -/
  hash : Bytes
  height : UInt64
  lastHeight : UInt64
  balance : Balance

end ChainRecord.Record
