import ModemMux.Device
import ModemMux.Frame.Alignment

/-!
# From the host to the modem

`Registry.route` decides what becomes of a frame from the frame and the session table alone: it is
discarded, refused, or its payload goes to the channel of its session. `Device.transmit` hands that
payload over, and a full channel's payload gets its header back.
-/

namespace ModemMux

/-- The outcome of a transmission that does not fail. -/
inductive TxStatus where
  /-- The channel has taken the payload. -/
  | sent
  /-- The channel is full; this is the frame, to be sent again later. -/
  | busy (frame : Frame)
  /-- The frame is for the root device, which keeps nothing. -/
  | discarded
  deriving DecidableEq, Repr

/-- A payload on its way to a channel. -/
structure Routed where
  tag : Tag
  channel : ChannelId
  /-- The frame the payload was cut from. -/
  cut : Split
  /-- The payload as it is handed over. -/
  payload : Bytes

/-- The payload as it is handed to a session of a class. A control payload is realigned, wherever
in memory its frame lies. -/
def Split.handOver (memory : Memory) (tagClass : TagClass) (s : Split) : Except MuxError Bytes :=
  if tagClass = .control then
    match Buffer.align memory.place ⟨memory.frameStart + s.header.length, s.payload⟩ with
    | .ok buffer => .ok buffer.bytes
    | .error fault => .error (.outOfMemory fault)
  else .ok s.payload

namespace Registry

/-- The channel of the session with a tag, if there is such a session and it has one. -/
def channelOf? (tag : Tag) (r : Registry) : Option ChannelId :=
  match r.lookup tag with
  | none => none
  | some e =>
    if e.index < r.capacity ∧ e.session.channel.isValid then some e.session.channel else none

/-- Where a frame goes. Without a tag, or with that of the root device, it goes nowhere. -/
def route (memory : Memory) (frame : Frame) (r : Registry) : Except MuxError (Option Routed) :=
  match frame.tag? with
  | none => .ok none
  | some tag =>
    if tag.toNat = 0 then .ok none
    else match frame.split with
      | .error fault => .error (.headerError fault)
      | .ok cut =>
        match r.channelOf? tag with
        | none => .error (.unknownSession tag)
        | some channel =>
          if tag.classify.carries cut.payloadClass = false then
            .error (.protocolMismatch tag tag.classify cut.payloadClass)
          else match cut.handOver memory tag.classify with
            | .error e => .error e
            | .ok payload => .ok (some ⟨tag, channel, cut, payload⟩)

end Registry

/-- What the channel's answer means for the frame. -/
def Routed.settle (memory : Memory) (routed : Routed) :
    Except ChannelError Submission → Except MuxError TxStatus
  | .ok .accepted => .ok .sent
  | .ok (.retry payload) =>
    match routed.cut.reassemble memory.place payload with
    | .ok frame => .ok (.busy frame)
    | .error fault => .error (.io routed.tag fault.message)
  | .error source => .error (.io routed.tag source.message)

namespace Device

variable {ω : Type} [Transport ω]

/-- Hands a frame's payload to the channel of its session. The transport's signals come with the
outcome. -/
def transmit (memory : Memory) (frame : Frame) (d : Device ω) :
    Except MuxError TxStatus × List Signal × Device ω :=
  match d.registry.route memory frame with
  | .error e => (.error e, [], d)
  | .ok none => (.ok .discarded, [], d)
  | .ok (some routed) =>
    match Transport.submit routed.tag routed.channel routed.payload d.peers with
    | (answer, signals, peers) => (routed.settle memory answer, signals, { d with peers })

end Device

end ModemMux
