import ChainRecord.Account
import ChainRecord.Address
import ChainRecord.Address.Checksum
import ChainRecord.Address.Codec
import ChainRecord.Address.Symbols
import ChainRecord.Attributes
import ChainRecord.Attributes.CoinAmount
import ChainRecord.Attributes.Error
import ChainRecord.Block
import ChainRecord.Bytes
import ChainRecord.Bytes.Base64
import ChainRecord.Decimal
import ChainRecord.Decimal.Bounded
import ChainRecord.Decimal.Numeral
import ChainRecord.Decoder
import ChainRecord.Json
import ChainRecord.Json.Binary64
import ChainRecord.Json.Printer
import ChainRecord.Json.Reader
import ChainRecord.Message
import ChainRecord.Reading.Authz
import ChainRecord.Reading.Bank
import ChainRecord.Reading.Blob
import ChainRecord.Reading.Circuit
import ChainRecord.Reading.Distribution
import ChainRecord.Reading.Feegrant
import ChainRecord.Reading.Forwarding
import ChainRecord.Reading.Gov
import ChainRecord.Reading.IbcChannel
import ChainRecord.Reading.IbcClient
import ChainRecord.Reading.IbcTransfer
import ChainRecord.Reading.Inconsistency
import ChainRecord.Reading.InterchainAccounts
import ChainRecord.Reading.Mailbox
import ChainRecord.Reading.Message
import ChainRecord.Reading.Scope
import ChainRecord.Reading.Staking
import ChainRecord.Reading.Transaction
import ChainRecord.Reading.Upgrade
import ChainRecord.Reading.Vesting
import ChainRecord.Reading.Warp
import ChainRecord.Reading.ZkIsm
import ChainRecord.Record.Address
import ChainRecord.Record.Entities
import ChainRecord.Record.Grant
import ChainRecord.Record.Message
import ChainRecord.Record.Namespace
import ChainRecord.Record.Proposal
import ChainRecord.Record.Token
import ChainRecord.Record.Transaction
import ChainRecord.Record.Transfer
import ChainRecord.Record.Upgrade
import ChainRecord.Record.Validator
import ChainRecord.Record.Vesting
import ChainRecord.Schema.Authz
import ChainRecord.Schema.Bank
import ChainRecord.Schema.Base
import ChainRecord.Schema.Blob
import ChainRecord.Schema.Blobstream
import ChainRecord.Schema.Circuit
import ChainRecord.Schema.Distribution
import ChainRecord.Schema.Feegrant
import ChainRecord.Schema.Forwarding
import ChainRecord.Schema.Gov
import ChainRecord.Schema.IbcChannel
import ChainRecord.Schema.IbcClient
import ChainRecord.Schema.IbcConnection
import ChainRecord.Schema.IbcTransfer
import ChainRecord.Schema.InterchainAccounts
import ChainRecord.Schema.LegacyGov
import ChainRecord.Schema.Mailbox
import ChainRecord.Schema.PostDispatch
import ChainRecord.Schema.SecurityModule
import ChainRecord.Schema.Signal
import ChainRecord.Schema.Slashing
import ChainRecord.Schema.Staking
import ChainRecord.Schema.Tag
import ChainRecord.Schema.Transaction
import ChainRecord.Schema.Upgrade
import ChainRecord.Schema.Vesting
import ChainRecord.Schema.Warp
import ChainRecord.Schema.ZkIsm
import ChainRecord.Settings
import ChainRecord.SortedPairs
import ChainRecord.Text.Blank
import ChainRecord.Text.Graphic
import ChainRecord.Text.Quoted
import ChainRecord.Time
import ChainRecord.Time.Calendar
import ChainRecord.Transaction.Envelope
import ChainRecord.Transaction.FeeAmount
import ChainRecord.Transaction.Signers
import ChainRecord.Transaction.Unwrap
import ChainRecord.Wire.Fault
import ChainRecord.Wire.FieldMap
import ChainRecord.Wire.Reader
import ChainRecord.Wire.Shape
import ChainRecord.Wire.Varint
import ChainRecord.Wire.Writer
import ChainRecord.Proofs.Lists
import ChainRecord.Proofs.Outcome
import ChainRecord.Proofs.Stamp
import ChainRecord.Proofs.ChannelCounters
import ChainRecord.Proofs.Wire.Run
import ChainRecord.Proofs.Wire.RoundTrip
import ChainRecord.Proofs.PlainTransaction
import ChainRecord.Proofs.Wire.Remainder
import ChainRecord.Proofs.Wire.Length
import ChainRecord.Proofs.WrappedTransaction
import ChainRecord.Proofs.Wire.Weight
import ChainRecord.Proofs.NumeralGrammar
import ChainRecord.Proofs.Registry
import ChainRecord.Proofs.Refusal
import ChainRecord.Proofs.UnknownMessage
import ChainRecord.Proofs.Address.Checksum
import ChainRecord.Proofs.Address.RoundTrip
import ChainRecord.Proofs.Address.Symbols
import ChainRecord.Proofs.SortedPairs
import ChainRecord.Proofs.Signers
import ChainRecord.Proofs.NestingLimit
import ChainRecord.Proofs.ChannelTotals
import ChainRecord.Proofs.Address.Canonical
import ChainRecord.Proofs.DistinctSigners
import ChainRecord.Proofs.ListedSigners
import ChainRecord.Proofs.SideData
import ChainRecord.Proofs.Base64
import ChainRecord.Proofs.FieldMap
import ChainRecord.Proofs.LosslessRecord
import ChainRecord.Proofs.ReadFrom
import ChainRecord.Proofs.AllOrNothing
import ChainRecord.Proofs.BlobSizes
import ChainRecord.Proofs.NumeralValue
import ChainRecord.Proofs.FeeAmount
import ChainRecord.Proofs.ProposalGenerations
import ChainRecord.Proofs.Json.Grammar
import ChainRecord.Proofs.Json.Tokens
import ChainRecord.Proofs.Json.Texts
import ChainRecord.Proofs.Json.Exactness
import ChainRecord.Proofs.HostPacket
import ChainRecord.Proofs.TransferPayload
import ChainRecord.Proofs.PacketDirection
import ChainRecord.Proofs.ProposalSummary
import ChainRecord.Proofs.Accounts
import ChainRecord.Proofs.DerivedDelegator
import ChainRecord.Proofs.InternalNames
import ChainRecord.Proofs.NativeAmount
import ChainRecord.Proofs.VestingSchedule
import ChainRecord.Proofs.Namespaces
import ChainRecord.Proofs.RestrictedAllowance
import ChainRecord.Proofs.AttributeAmounts
import ChainRecord.Proofs.Json.Doubles
import ChainRecord.Proofs.Json.MemberLengths
import ChainRecord.Proofs.NestingDepth
import ChainRecord.Proofs.NumeralScale
import ChainRecord.Proofs.RateForms
import ChainRecord.Proofs.NativeFee
import ChainRecord.Proofs.Trimming
import ChainRecord.Proofs.CoinLists
