import ModemMux.Channel.Table
import ModemMux.Channel.Transport

/-!
# A modem in memory

The loopback keeps a queue of payloads for each open channel until they are drained. A channel
whose queue fills up asks its session to stop, and asks it to go on when it is drained.
-/

namespace ModemMux

structure LoopbackConfig where
  /-- The number of channel ids. -/
  maxChannels : Nat := 64
  /-- How many payloads a queue holds; by default as many as the channel has descriptors. -/
  queueDepth : Option Nat := none
  deriving DecidableEq, Repr, Inhabited

structure OpenChannel where
  id : ChannelId
  /-- The tag it was opened for. -/
  tag : Tag
  /-- How many payloads its queue holds. -/
  depth : Nat
  /-- The payloads that wait, the oldest first. -/
  queue : List Bytes
  /-- Whether it has asked its session to stop. -/
  throttled : Bool
  deriving DecidableEq, Repr

structure Loopback where
  config : LoopbackConfig := {}
  /-- The open channels by ascending id. -/
  channels : List OpenChannel := []
  /-- Whether no channel is opened any more. -/
  refusesOpens : Bool := false
  /-- Whether no payload is taken any more. -/
  failsTransmits : Bool := false
  deriving DecidableEq, Repr, Inhabited

/-- The signals for the session of a tag: one, or none for the root device. -/
def Signal.ofTag (tag : Tag) (engage : Bool) : List Signal :=
  (tag.toSession?.map fun session ↦ ⟨session, engage⟩).toList

namespace OpenChannel

def isFull (c : OpenChannel) : Bool := c.depth ≤ c.queue.length

def push (payload : Bytes) (c : OpenChannel) : OpenChannel :=
  let c := { c with queue := c.queue ++ [payload] }
  { c with throttled := c.throttled || c.isFull }

def flush (c : OpenChannel) : OpenChannel := { c with queue := [], throttled := false }

@[simp] theorem id_push (payload : Bytes) (c : OpenChannel) : (c.push payload).id = c.id := rfl
@[simp] theorem tag_push (payload : Bytes) (c : OpenChannel) : (c.push payload).tag = c.tag := rfl
@[simp] theorem depth_push (payload : Bytes) (c : OpenChannel) :
    (c.push payload).depth = c.depth := rfl
@[simp] theorem queue_push (payload : Bytes) (c : OpenChannel) :
    (c.push payload).queue = c.queue ++ [payload] := rfl
@[simp] theorem id_flush (c : OpenChannel) : c.flush.id = c.id := rfl
@[simp] theorem tag_flush (c : OpenChannel) : c.flush.tag = c.tag := rfl
@[simp] theorem depth_flush (c : OpenChannel) : c.flush.depth = c.depth := rfl
@[simp] theorem queue_flush (c : OpenChannel) : c.flush.queue = [] := rfl

end OpenChannel

namespace Loopback

variable (l : Loopback)

def channel? (id : ChannelId) : Option OpenChannel := l.channels.find? (·.id == id)

def isOpen (id : ChannelId) : Bool := (l.channel? id).isSome

def queued (id : ChannelId) : Nat := ((l.channel? id).map (·.queue.length)).getD 0

/-- The open channels with the tags they are bound to, by ascending id. -/
def openChannels : List (Tag × ChannelId) := l.channels.map fun c ↦ (c.tag, c.id)

/-- How many payloads a queue for a tag holds: at least one. -/
def depthFor (tag : Tag) : Nat :=
  max 1 (l.config.queueDepth.getD (ChannelConfig.ofTag tag).uplinkDescriptors)

/-- No channel gets an id from here on. -/
def idBound : Nat := min l.config.maxChannels ChannelId.idLimit

/-- The least id that is not in use. With `n` channels open, one of the first `n + 1` numbers is
free, so no more need be tried. -/
def freeId? : Option ChannelId :=
  ((List.range (min l.idBound (l.channels.length + 1))).map .ofNat).find? (!l.isOpen ·)

def modify (id : ChannelId) (f : OpenChannel → OpenChannel) : Loopback :=
  { l with channels := l.channels.map fun c ↦ if c.id == id then f c else c }

def insertById (c : OpenChannel) : List OpenChannel → List OpenChannel
  | [] => [c]
  | d :: rest => if c.id.raw < d.id.raw then c :: d :: rest else d :: insertById c rest

theorem mem_insertById {c d : OpenChannel} {cs : List OpenChannel} :
    d ∈ insertById c cs ↔ d = c ∨ d ∈ cs := by
  induction cs with
  | nil => simp [insertById]
  | cons e cs ih =>
    unfold insertById
    split <;> simp [ih, or_left_comm]

/-- Opens the channel with the least free id. -/
def openChannel (tag : Tag) : Except ChannelError ChannelId × Loopback :=
  if l.refusesOpens then (.error (.refused tag "loopback configured to refuse opens"), l)
  else match l.freeId? with
    | none => (.error (.exhausted tag), l)
    | some id =>
      let c : OpenChannel := ⟨id, tag, l.depthFor tag, [], false⟩
      (.ok id, { l with channels := insertById c l.channels })

/-- Closes a channel with all that waits on it. -/
def closeChannel (tag : Tag) (id : ChannelId) : Except ChannelError Unit × Loopback :=
  match l.channel? id with
  | none => (.error (.notOpen id), l)
  | some c =>
    if c.tag = tag then (.ok (), { l with channels := l.channels.filter (·.id != id) })
    else (.error (.tagMismatch id tag c.tag), l)

/-- Puts a payload into the queue of a channel. A full channel hands it back; a channel that this
payload fills asks its session to stop. -/
def submit (tag : Tag) (id : ChannelId) (payload : Bytes) :
    Except ChannelError Submission × List Signal × Loopback :=
  if l.failsTransmits then (.error (.io "loopback configured to fail transmits"), [], l)
  else match l.channel? id with
    | none => (.error (.notOpen id), [], l)
    | some c =>
      if c.tag ≠ tag then (.error (.tagMismatch id tag c.tag), [], l)
      else if c.isFull then (.ok (.retry payload), [], l)
      else
        let engages := (c.push payload).throttled && !c.throttled
        (.ok .accepted, if engages then Signal.ofTag tag true else [],
          l.modify id (·.push payload))

/-- Takes all payloads off a channel. If it had asked its session to stop, it asks it to go on. -/
def drain (id : ChannelId) : List Bytes × List Signal × Loopback :=
  match l.channel? id with
  | none => ([], [], l)
  | some c =>
    (c.queue, if c.throttled then Signal.ofTag c.tag false else [], l.modify id (·.flush))

/-- Submits the same payload until it is not accepted, at most `limit` times: how often it was
accepted, the answer that ended the series, and the signals on the way. -/
def fill (tag : Tag) (channel : ChannelId) (payload : Bytes) :
    Nat → Loopback → Nat × Option (Except ChannelError Submission) × List Signal × Loopback
  | 0, l => (0, none, [], l)
  | limit + 1, l =>
    match l.submit tag channel payload with
    | (.ok .accepted, signals, l) =>
      match fill tag channel payload limit l with
      | (accepted, last, later, l) => (accepted + 1, last, signals ++ later, l)
    | (answer, signals, l) => (0, some answer, signals, l)

end Loopback

instance : Transport Loopback where
  openChannel tag l := l.openChannel tag
  closeChannel tag id l := l.closeChannel tag id
  submit tag id payload l := l.submit tag id payload

end ModemMux
