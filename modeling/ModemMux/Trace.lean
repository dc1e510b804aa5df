import ModemMux.Channel.Transport
import ModemMux.Host

/-!
# What a device asks of its peers

`Recorded ω` are the peers `ω` with a list of the calls made to them, in order. They answer as the
peers alone do.
-/

namespace ModemMux

/-- A call to a transport or to a host stack, with the answer to it. -/
inductive Call where
  | openChannel (tag : Tag) (answer : Except ChannelError ChannelId)
  | closeChannel (tag : Tag) (channel : ChannelId) (answer : Except ChannelError Unit)
  /-- A payload, whatever became of it. -/
  | submit (tag : Tag) (channel : ChannelId) (payload : Bytes)
  | attach (info : DeviceInfo) (answer : Except String Unit)
  | detach
  | deliver (frame : Frame) (verdict : Delivery)

def Call.isUpward : Call → Bool
  | .attach _ _ | .detach | .deliver _ _ => true
  | .openChannel _ _ | .closeChannel _ _ _ | .submit _ _ _ => false

/-- Peers whose calls are recorded. -/
structure Recorded (ω : Type) where
  peers : ω
  /-- The calls so far, the first one first. -/
  calls : List Call

namespace Recorded

variable {ω : Type}

def fresh (peers : ω) : Recorded ω := ⟨peers, []⟩

def note (call : Call) (peers : ω) (w : Recorded ω) : Recorded ω := ⟨peers, w.calls ++ [call]⟩

@[simp] theorem peers_note (call : Call) (peers : ω) (w : Recorded ω) :
    (w.note call peers).peers = peers := rfl
@[simp] theorem calls_note (call : Call) (peers : ω) (w : Recorded ω) :
    (w.note call peers).calls = w.calls ++ [call] := rfl

instance [Transport ω] : Transport (Recorded ω) where
  openChannel tag w :=
    match Transport.openChannel tag w.peers with
    | (answer, peers) => (answer, w.note (.openChannel tag answer) peers)
  closeChannel tag channel w :=
    match Transport.closeChannel tag channel w.peers with
    | (answer, peers) => (answer, w.note (.closeChannel tag channel answer) peers)
  submit tag channel payload w :=
    match Transport.submit tag channel payload w.peers with
    | (answer, signals, peers) => (answer, signals, w.note (.submit tag channel payload) peers)

instance [HostStack ω] : HostStack (Recorded ω) where
  attach info w :=
    match HostStack.attach info w.peers with
    | (answer, peers) => (answer, w.note (.attach info answer) peers)
  detach w := w.note .detach (HostStack.detach w.peers)
  deliver frame w :=
    match HostStack.deliver frame w.peers with
    | (verdict, peers) => (verdict, w.note (.deliver frame verdict) peers)

/-- A recorded transport answers as the one beneath it, and notes the call. -/
theorem submit_eq [Transport ω] {tag : Tag} {channel : ChannelId} {payload : Bytes}
    {w : Recorded ω} {answer : Except ChannelError Submission} {signals : List Signal} {peers' : ω}
    (h : Transport.submit tag channel payload w.peers = (answer, signals, peers')) :
    Transport.submit tag channel payload w =
      (answer, signals, w.note (.submit tag channel payload) peers') := by
  simp [Transport.submit, h]

/-- A recorded host answers as the one beneath it, and notes the call. -/
theorem deliver_eq [HostStack ω] {frame : Frame} {w : Recorded ω} {verdict : Delivery} {peers' : ω}
    (h : HostStack.deliver frame w.peers = (verdict, peers')) :
    HostStack.deliver frame w = (verdict, w.note (.deliver frame verdict) peers') := by
  simp [HostStack.deliver, h]

/-- They answer as the peers alone do. -/
theorem fst_openChannel [Transport ω] (tag : Tag) (w : Recorded ω) :
    (Transport.openChannel tag w).1 = (Transport.openChannel tag w.peers).1 := rfl
/-- Recording does not change the answer to a closing. -/
theorem fst_closeChannel [Transport ω] (tag : Tag) (channel : ChannelId) (w : Recorded ω) :
    (Transport.closeChannel tag channel w).1 = (Transport.closeChannel tag channel w.peers).1 :=
  rfl

/-- An opening is noted once, with its answer. -/
theorem calls_openChannel [Transport ω] {tag : Tag} {w w' : Recorded ω}
    {answer : Except ChannelError ChannelId}
    (h : Transport.openChannel tag w = (answer, w')) :
    w'.calls = w.calls ++ [.openChannel tag answer] := by
  cases h
  rfl

/-- A closing is noted once, with its answer. -/
theorem calls_closeChannel [Transport ω] {tag : Tag} {channel : ChannelId} {w w' : Recorded ω}
    {answer : Except ChannelError Unit}
    (h : Transport.closeChannel tag channel w = (answer, w')) :
    w'.calls = w.calls ++ [.closeChannel tag channel answer] := by
  cases h
  rfl

/-- A payload that is submitted is noted once. -/
theorem calls_submit [Transport ω] {tag : Tag} {channel : ChannelId} {payload : Bytes}
    {w w' : Recorded ω} {answer : Except ChannelError Submission} {signals : List Signal}
    (h : Transport.submit tag channel payload w = (answer, signals, w')) :
    w'.calls = w.calls ++ [.submit tag channel payload] := by
  cases h
  rfl

/-- An attachment is noted once, with its answer. -/
theorem calls_attach [HostStack ω] {info : DeviceInfo} {w w' : Recorded ω}
    {answer : Except String Unit} (h : HostStack.attach info w = (answer, w')) :
    w'.calls = w.calls ++ [.attach info answer] := by
  cases h
  rfl

end Recorded

end ModemMux
