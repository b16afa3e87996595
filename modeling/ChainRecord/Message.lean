import ChainRecord.Schema.Authz
import ChainRecord.Schema.Bank
import ChainRecord.Schema.Blob
import ChainRecord.Schema.Blobstream
import ChainRecord.Schema.Circuit
import ChainRecord.Schema.Distribution
import ChainRecord.Schema.Feegrant
import ChainRecord.Schema.Forwarding
import ChainRecord.Schema.Gov
import ChainRecord.Schema.IbcChannel
import ChainRecord.Schema.IbcClient
import ChainRecord.Schema.IbcConnection
import ChainRecord.Schema.IbcTransfer
import ChainRecord.Schema.InterchainAccounts
import ChainRecord.Schema.LegacyGov
import ChainRecord.Schema.Mailbox
import ChainRecord.Schema.PostDispatch
import ChainRecord.Schema.SecurityModule
import ChainRecord.Schema.Signal
import ChainRecord.Schema.Slashing
import ChainRecord.Schema.Staking
import ChainRecord.Schema.Upgrade
import ChainRecord.Schema.Vesting
import ChainRecord.Schema.Warp
import ChainRecord.Schema.ZkIsm
import ChainRecord.Wire.FieldMap
import ChainRecord.Wire.Writer

/-!
# Messages

A message is either of a known kind, with a body of the structure of that kind, or of a type that
is not known, in which case its bytes are kept as they came. What is known of a kind (its type URL,
its tag, its layout and its signers) is said by the module the kind belongs to; here the modules
are put together, and what holds of all messages is derived from it.

The type URL alone decides which kind a wrapped message has. It is compared as a whole: case,
surrounding blanks and a missing slash make a different type.
-/

namespace ChainRecord.Message

/-- The kinds of messages of all modules, each module's kinds under the name of the module. -/
inductive Kind where
  | bank (kind : Bank.Kind)
  | staking (kind : Staking.Kind)
  | slashing (kind : Slashing.Kind)
  | distribution (kind : Distribution.Kind)
  | vesting (kind : Vesting.Kind)
  | blob (kind : Blob.Kind)
  | blobstream (kind : Blobstream.Kind)
  | feegrant (kind : Feegrant.Kind)
  | authz (kind : Authz.Kind)
  | gov (kind : Gov.Kind)
  /-- The first generation of governance; its second generation is `gov`. -/
  | legacyGov (kind : LegacyGov.Kind)
  | upgrade (kind : Upgrade.Kind)
  | signal (kind : Signal.Kind)
  | circuit (kind : Circuit.Kind)
  | ibcClient (kind : IbcClient.Kind)
  | ibcConnection (kind : IbcConnection.Kind)
  | ibcChannel (kind : IbcChannel.Kind)
  | ibcTransfer (kind : IbcTransfer.Kind)
  | interchainAccounts (kind : InterchainAccounts.Kind)
  | mailbox (kind : Mailbox.Kind)
  | securityModule (kind : SecurityModule.Kind)
  | postDispatch (kind : PostDispatch.Kind)
  | warp (kind : Warp.Kind)
  | zkIsm (kind : ZkIsm.Kind)
  | forwarding (kind : Forwarding.Kind)
  deriving DecidableEq

namespace Kind

/-- All kinds. -/
def all : List Kind :=
  Bank.Kind.all.map .bank ++
    Staking.Kind.all.map .staking ++
    Slashing.Kind.all.map .slashing ++
    Distribution.Kind.all.map .distribution ++
    Vesting.Kind.all.map .vesting ++
    Blob.Kind.all.map .blob ++
    Blobstream.Kind.all.map .blobstream ++
    Feegrant.Kind.all.map .feegrant ++
    Authz.Kind.all.map .authz ++
    Gov.Kind.all.map .gov ++
    LegacyGov.Kind.all.map .legacyGov ++
    Upgrade.Kind.all.map .upgrade ++
    Signal.Kind.all.map .signal ++
    Circuit.Kind.all.map .circuit ++
    IbcClient.Kind.all.map .ibcClient ++
    IbcConnection.Kind.all.map .ibcConnection ++
    IbcChannel.Kind.all.map .ibcChannel ++
    IbcTransfer.Kind.all.map .ibcTransfer ++
    InterchainAccounts.Kind.all.map .interchainAccounts ++
    Mailbox.Kind.all.map .mailbox ++
    SecurityModule.Kind.all.map .securityModule ++
    PostDispatch.Kind.all.map .postDispatch ++
    Warp.Kind.all.map .warp ++
    ZkIsm.Kind.all.map .zkIsm ++
    Forwarding.Kind.all.map .forwarding

/-- The bodies of messages of a kind. -/
@[reducible] def Body : Kind → Type
  | .bank kind => kind.Body
  | .staking kind => kind.Body
  | .slashing kind => kind.Body
  | .distribution kind => kind.Body
  | .vesting kind => kind.Body
  | .blob kind => kind.Body
  | .blobstream kind => kind.Body
  | .feegrant kind => kind.Body
  | .authz kind => kind.Body
  | .gov kind => kind.Body
  | .legacyGov kind => kind.Body
  | .upgrade kind => kind.Body
  | .signal kind => kind.Body
  | .circuit kind => kind.Body
  | .ibcClient kind => kind.Body
  | .ibcConnection kind => kind.Body
  | .ibcChannel kind => kind.Body
  | .ibcTransfer kind => kind.Body
  | .interchainAccounts kind => kind.Body
  | .mailbox kind => kind.Body
  | .securityModule kind => kind.Body
  | .postDispatch kind => kind.Body
  | .warp kind => kind.Body
  | .zkIsm kind => kind.Body
  | .forwarding kind => kind.Body

/-- The URL of the type of a kind. -/
def typeUrl : Kind → String
  | .bank kind => kind.typeUrl
  | .staking kind => kind.typeUrl
  | .slashing kind => kind.typeUrl
  | .distribution kind => kind.typeUrl
  | .vesting kind => kind.typeUrl
  | .blob kind => kind.typeUrl
  | .blobstream kind => kind.typeUrl
  | .feegrant kind => kind.typeUrl
  | .authz kind => kind.typeUrl
  | .gov kind => kind.typeUrl
  | .legacyGov kind => kind.typeUrl
  | .upgrade kind => kind.typeUrl
  | .signal kind => kind.typeUrl
  | .circuit kind => kind.typeUrl
  | .ibcClient kind => kind.typeUrl
  | .ibcConnection kind => kind.typeUrl
  | .ibcChannel kind => kind.typeUrl
  | .ibcTransfer kind => kind.typeUrl
  | .interchainAccounts kind => kind.typeUrl
  | .mailbox kind => kind.typeUrl
  | .securityModule kind => kind.typeUrl
  | .postDispatch kind => kind.typeUrl
  | .warp kind => kind.typeUrl
  | .zkIsm kind => kind.typeUrl
  | .forwarding kind => kind.typeUrl

/-- The tag of a kind. -/
def tag : Kind → Tag
  | .bank kind => kind.tag
  | .staking kind => kind.tag
  | .slashing kind => kind.tag
  | .distribution kind => kind.tag
  | .vesting kind => kind.tag
  | .blob kind => kind.tag
  | .blobstream kind => kind.tag
  | .feegrant kind => kind.tag
  | .authz kind => kind.tag
  | .gov kind => kind.tag
  | .legacyGov kind => kind.tag
  | .upgrade kind => kind.tag
  | .signal kind => kind.tag
  | .circuit kind => kind.tag
  | .ibcClient kind => kind.tag
  | .ibcConnection kind => kind.tag
  | .ibcChannel kind => kind.tag
  | .ibcTransfer kind => kind.tag
  | .interchainAccounts kind => kind.tag
  | .mailbox kind => kind.tag
  | .securityModule kind => kind.tag
  | .postDispatch kind => kind.tag
  | .warp kind => kind.tag
  | .zkIsm kind => kind.tag
  | .forwarding kind => kind.tag

/-- The layout of the bodies of a kind. -/
def shape : (kind : Kind) → Wire.Shape kind.Body
  | .bank kind => kind.shape
  | .staking kind => kind.shape
  | .slashing kind => kind.shape
  | .distribution kind => kind.shape
  | .vesting kind => kind.shape
  | .blob kind => kind.shape
  | .blobstream kind => kind.shape
  | .feegrant kind => kind.shape
  | .authz kind => kind.shape
  | .gov kind => kind.shape
  | .legacyGov kind => kind.shape
  | .upgrade kind => kind.shape
  | .signal kind => kind.shape
  | .circuit kind => kind.shape
  | .ibcClient kind => kind.shape
  | .ibcConnection kind => kind.shape
  | .ibcChannel kind => kind.shape
  | .ibcTransfer kind => kind.shape
  | .interchainAccounts kind => kind.shape
  | .mailbox kind => kind.shape
  | .securityModule kind => kind.shape
  | .postDispatch kind => kind.shape
  | .warp kind => kind.shape
  | .zkIsm kind => kind.shape
  | .forwarding kind => kind.shape

/-- The addresses that have to sign a message, in the order of its fields. -/
def signers : (kind : Kind) → kind.Body → List String
  | .bank kind, body => kind.signers body
  | .staking kind, body => kind.signers body
  | .slashing kind, body => kind.signers body
  | .distribution kind, body => kind.signers body
  | .vesting kind, body => kind.signers body
  | .blob kind, body => kind.signers body
  | .blobstream kind, body => kind.signers body
  | .feegrant kind, body => kind.signers body
  | .authz kind, body => kind.signers body
  | .gov kind, body => kind.signers body
  | .legacyGov kind, body => kind.signers body
  | .upgrade kind, body => kind.signers body
  | .signal kind, body => kind.signers body
  | .circuit kind, body => kind.signers body
  | .ibcClient kind, body => kind.signers body
  | .ibcConnection kind, body => kind.signers body
  | .ibcChannel kind, body => kind.signers body
  | .ibcTransfer kind, body => kind.signers body
  | .interchainAccounts kind, body => kind.signers body
  | .mailbox kind, body => kind.signers body
  | .securityModule kind, body => kind.signers body
  | .postDispatch kind, body => kind.signers body
  | .warp kind, body => kind.signers body
  | .zkIsm kind, body => kind.signers body
  | .forwarding kind, body => kind.signers body

/-- Whether the size of messages of a kind is recorded. It is not for the first generation of
governance. -/
def reportsSize : Kind → Bool
  | .legacyGov _ => false
  | _ => true

/-- The kind with a type URL. -/
def ofUrl? (url : String) : Option Kind :=
  all.find? fun kind ↦ kind.typeUrl = url

end Kind

end ChainRecord.Message

namespace ChainRecord

/-- A message. -/
inductive Message where
  /-- A message of a known kind. -/
  | known (kind : Message.Kind) (body : kind.Body)
  /-- A message of another type, as it was wrapped. -/
  | unknown (any : Any)

namespace Message

/-- The kind of a message, if it is known. -/
def kind? : Message → Option Kind
  | .known kind _ => some kind
  | .unknown _ => none

/-- The URL of the type of a message. -/
def typeUrl : Message → String
  | .known kind _ => kind.typeUrl
  | .unknown any => any.typeUrl

/-- The tag of a message. -/
def tag : Message → Tag
  | .known kind _ => kind.tag
  | .unknown _ => .unknown

/-- The field map of a message. Of an unknown message it is that of its wrapping. -/
def fields : Message → Json.Members
  | .known kind body => kind.shape.fieldMap body
  | .unknown any => Any.shape.fieldMap any

/-- The length of the canonical form of a message, where it is recorded. -/
def size : Message → Option Nat
  | .known kind body => if kind.reportsSize then some (kind.shape.encodedLength body) else none
  | .unknown _ => none

/-- The addresses that have to sign a message. Nothing is known of those of an unknown one. -/
def signers : Message → List String
  | .known kind body => kind.signers body
  | .unknown _ => []

/-- Unwraps a message. Of a known type the bytes have to be a message; of other types they may be
anything. -/
def ofAny (any : Any) : Except Wire.Fault Message :=
  match Kind.ofUrl? any.typeUrl with
  | some kind => (kind.shape.decode any.value).map (Message.known kind)
  | none => .ok (.unknown any)

/-- Whether a type URL is that of a known kind. -/
def isKnownUrl (url : String) : Bool :=
  (Kind.ofUrl? url).isSome

end Message

end ChainRecord
