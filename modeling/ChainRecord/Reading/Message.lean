import ChainRecord.Reading.Authz
import ChainRecord.Reading.Bank
import ChainRecord.Reading.Blob
import ChainRecord.Reading.Circuit
import ChainRecord.Reading.Distribution
import ChainRecord.Reading.Feegrant
import ChainRecord.Reading.Forwarding
import ChainRecord.Reading.Gov
import ChainRecord.Reading.IbcChannel
import ChainRecord.Reading.IbcClient
import ChainRecord.Reading.IbcTransfer
import ChainRecord.Reading.Mailbox
import ChainRecord.Reading.Staking
import ChainRecord.Reading.Upgrade
import ChainRecord.Reading.Vesting
import ChainRecord.Reading.Warp
import ChainRecord.Reading.ZkIsm

/-!
# Reading any message

A message is read by the module of its kind, and then stamped with its block and its place. Wrapped
messages are read in the same way, but only so far in as the settings allow; one that is too far in,
that is malformed or that makes no sense is left as it is and never makes the message around it
fail.

A failed transaction has no effects, so what its messages would have brought about is not recorded.
-/

namespace ChainRecord

open Reading

namespace Message

/-- What the reader of its module finds in a message. In an unknown message nothing is found. -/
def read (scope : Scope) : Message → Except Inconsistency Findings
  | .known (.bank kind) m => .ok (Bank.read scope kind m)
  | .known (.staking kind) m => Staking.read scope kind m
  | .known (.slashing kind) m => .ok (Slashing.read scope kind m)
  | .known (.distribution kind) m => .ok (Distribution.read scope kind m)
  | .known (.vesting kind) m => Vesting.read scope kind m
  | .known (.blob kind) m => Blob.read scope kind m
  | .known (.blobstream kind) m => .ok (Blobstream.read scope kind m)
  | .known (.feegrant kind) m => Feegrant.read scope kind m
  | .known (.authz kind) m => Authz.read scope kind m
  | .known (.gov kind) m => Gov.read scope kind m
  | .known (.legacyGov kind) m => LegacyGov.read scope kind m
  | .known (.upgrade kind) m => .ok (Upgrade.read scope kind m)
  | .known (.signal kind) m => .ok (Signal.read scope kind m)
  | .known (.circuit kind) m => .ok (Circuit.read scope kind m)
  | .known (.ibcClient kind) m => .ok (IbcClient.read scope kind m)
  | .known (.ibcConnection kind) m => .ok (IbcConnection.read scope kind m)
  | .known (.ibcChannel kind) m => .ok (IbcChannel.read scope kind m)
  | .known (.ibcTransfer kind) m => .ok (IbcTransfer.read scope kind m)
  | .known (.interchainAccounts kind) m => .ok (InterchainAccounts.read scope kind m)
  | .known (.mailbox kind) m => .ok (Mailbox.read scope kind m)
  | .known (.securityModule kind) m => .ok (SecurityModule.read scope kind m)
  | .known (.postDispatch kind) m => .ok (PostDispatch.read scope kind m)
  | .known (.warp kind) m => .ok (Warp.read scope kind m)
  | .known (.zkIsm kind) m => .ok (ZkIsm.read scope kind m)
  | .known (.forwarding kind) m => .ok (Forwarding.read scope kind m)
  | .unknown _ => .ok {}

end Message

/-- Why a message of a transaction has no record. -/
structure MessageError where
  typeUrl : String
  /-- The place of the message in its transaction, counted from zero. -/
  position : Nat
  cause : Inconsistency
  deriving DecidableEq, Repr

/-- The text of an error. -/
def MessageError.message (e : MessageError) : String :=
  e.typeUrl ++ " at position " ++ toString e.position ++ ": " ++ e.cause.message

/-- The record of a message in a scope, with what was found in it. -/
def Message.stamp (message : Message) (scope : Scope) (found : Findings) : Record.Message where
  tag := message.tag
  typeUrl := message.typeUrl
  height := scope.block.height
  time := scope.block.time
  position := scope.position
  data := message.fields
  size := message.size
  blobsSize := found.blobsSize
  addresses := found.addresses
  internalMessages := found.internalMessages
  packet := found.packet
  entities :=
    match scope.status with
    | .success => found.entities
    | .failed => .empty

/-- The record of a message in a scope. -/
def Message.recordIn (scope : Scope) (message : Message) : Except MessageError Record.Message :=
  match message.read scope with
  | .ok found => .ok (message.stamp scope found)
  | .error cause => .error ⟨message.typeUrl, scope.position, cause⟩

/-- A record is what was found in the message, stamped. -/
theorem Message.recordIn_eq_ok_iff {scope : Scope} {message : Message} {r : Record.Message} :
    message.recordIn scope = .ok r ↔
      ∃ found, message.read scope = .ok found ∧ message.stamp scope found = r := by
  delta recordIn
  cases message.read scope <;> simp

namespace Reading

/-- The record of a wrapped message of which so many levels may be read, in a message that stands
at the given place. -/
def nestedAt (d : Decoder) (block : Block) (position : Nat) (status : Status) :
    Nat → Any → Record.NestedMessage
  | 0, any => .undecoded any
  | levels + 1, any =>
    match Message.ofAny any with
    | .error _ => .undecoded any
    | .ok message =>
      let scope := ⟨d, block, position, status, nestedAt d block position status levels⟩
      match message.recordIn scope with
      | .error _ => .undecoded any
      | .ok record => ⟨any.typeUrl, record.tag, record.data⟩

/-- The record of a wrapped message of which so many levels may be read, in the first message of an
executed transaction. -/
def nestedWithin (d : Decoder) (block : Block) : Nat → Any → Record.NestedMessage :=
  nestedAt d block 0 .success

/-- What the reader of a message that nothing wraps sees. -/
def outermost (d : Decoder) (block : Block) (position : Nat) (status : Status) : Scope where
  decoder := d
  block
  position
  status
  nested := nestedAt d block position status d.settings.maxNestingDepth.toNat

@[simp] theorem outermost_decoder (d : Decoder) (block : Block) (position : Nat)
    (status : Status) : (outermost d block position status).decoder = d := rfl

@[simp] theorem outermost_settings (d : Decoder) (block : Block) (position : Nat)
    (status : Status) : (outermost d block position status).settings = d.settings := rfl

end Reading

/-- The record of a message of a transaction. -/
def Message.record (d : Decoder) (block : Block) (message : Message) (position : Nat)
    (status : Status) : Except MessageError Record.Message :=
  message.recordIn (outermost d block position status)

end ChainRecord
