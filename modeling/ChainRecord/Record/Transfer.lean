import ChainRecord.Decimal
import ChainRecord.Time

/-!
# Records of transfers between chains

A transfer is the payload of a packet. When it takes effect, it is recorded together with what it
adds to the counters of the channel at this chain's end.
-/

namespace ChainRecord.Record

/-- The payload of a transfer packet. -/
structure TransferData where
  amount : Decimal
  denom : String
  sender : String
  receiver : String
  memo : String

/-- A transfer that took effect. -/
structure Transfer where
  channelId : String
  port : String
  sender : String
  receiver : String
  amount : Decimal
  denom : String
  memo : String
  sequence : UInt64
  height : UInt64
  time : Time

/-- Where a channel stands. -/
inductive ChannelStatus where
  | initialization
  | opened
  | closed
  deriving DecidableEq

/-- The name of a status. -/
def ChannelStatus.name : ChannelStatus → String
  | .initialization => "initialization"
  | .opened => "opened"
  | .closed => "closed"

/-- What one packet adds to the counters of a channel. -/
structure Channel where
  id : String
  portId : String
  status : ChannelStatus := .initialization
  transfersCount : UInt64 := 1
  /-- Native denomination that came in over the channel. -/
  received : Decimal
  /-- Native denomination that went out over the channel. -/
  sent : Decimal
  height : UInt64

end ChainRecord.Record
