import ModemMux.Channel.Error
import ModemMux.Mac
import ModemMux.Payload

/-!
# What the multiplexer refuses

Each error is a cause with what it is about. Backpressure is no error: a full channel hands the
frame back.
-/

namespace ModemMux

inductive MuxError where
  /-- The tag cannot name a session. -/
  | invalidTag (tag : Tag)
  /-- No tag has this session id. -/
  | invalidSessionId (id : SessionId)
  /-- No session with this tag is live. -/
  | unknownSession (tag : Tag)
  /-- A session with this tag is live already. -/
  | sessionExists (tag : Tag)
  /-- The session table is full. -/
  | capacityExceeded (capacity : Nat)
  /-- The session has lost its channel. -/
  | invalidChannel (tag : Tag)
  /-- The modem opened no channel for the session. -/
  | channelOpenFailed (tag : Tag) (source : ChannelError)
  /-- The modem did not close the session's channel. -/
  | channelCloseFailed (tag : Tag) (channel : ChannelId) (source : ChannelError)
  /-- Sessions of this class do not carry such a payload. -/
  | protocolMismatch (tag : Tag) (tagClass : TagClass) (payload : PayloadClass)
  /-- The frame cannot be cut into header and payload. -/
  | headerError (source : FrameError)
  /-- The inbound buffer has no room for a header. -/
  | malformedFrame (len : Nat)
  /-- A payload could not be realigned. -/
  | outOfMemory (source : FrameError)
  /-- The transfer to the modem failed. -/
  | io (tag : Tag) (reason : String)
  /-- The transfer unit is too small or too large. -/
  | outOfRange (mtu least greatest : Nat)
  /-- A device cannot have this address. -/
  | invalidAddress (mac : Mac)
  /-- The address of a device does not change while it is up. -/
  | deviceBusy (name : String)
  /-- The device cannot be set up so. -/
  | invalidConfig (reason : String)
  /-- The host stack does not attach the device. -/
  | hostRejected (reason : String)
  deriving DecidableEq, Repr

namespace MuxError

def message : MuxError → String
  | .invalidTag tag => s!"invalid VLAN tag {tag}"
  | .invalidSessionId id => s!"session id {id} does not map to a VLAN tag"
  | .unknownSession tag => s!"no session for VLAN tag {tag}"
  | .sessionExists tag => s!"session for VLAN tag {tag} already exists"
  | .capacityExceeded capacity => s!"session table full ({capacity} entries)"
  | .invalidChannel tag => s!"session for VLAN tag {tag} has no valid channel"
  | .channelOpenFailed tag source => s!"cannot open channel for VLAN tag {tag}: {source.message}"
  | .channelCloseFailed tag channel source =>
    s!"cannot close channel {channel.display} of VLAN tag {tag}: {source.message}"
  | .protocolMismatch tag tagClass payload =>
    s!"VLAN tag {tag} ({tagClass.title}) cannot carry {payload.title} payload"
  | .headerError source => s!"link header error: {source.message}"
  | .malformedFrame len => s!"malformed inbound frame ({len} bytes)"
  | .outOfMemory source => s!"out of memory: {source.message}"
  | .io tag reason => s!"transmit failed on VLAN tag {tag}: {reason}"
  | .outOfRange mtu least greatest => s!"MTU {mtu} out of range {least}..={greatest}"
  | .invalidAddress mac => s!"invalid hardware address {mac.display}"
  | .deviceBusy name => s!"device {name} is up"
  | .invalidConfig reason => s!"invalid configuration: {reason}"
  | .hostRejected reason => s!"host stack rejected device: {reason}"

/-- Whether the error is about the session table. Such a request is not worth repeating. -/
def isStructural : MuxError → Bool
  | .invalidTag _ | .unknownSession _ | .sessionExists _ | .capacityExceeded _
  | .invalidChannel _ | .channelOpenFailed _ _ | .channelCloseFailed _ _ _ => true
  | .invalidSessionId _ | .protocolMismatch _ _ _ | .headerError _ | .malformedFrame _
  | .outOfMemory _ | .io _ _ | .outOfRange _ _ _ | .invalidAddress _ | .deviceBusy _
  | .invalidConfig _ | .hostRejected _ => false

end MuxError

end ModemMux
