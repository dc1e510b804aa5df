import ModemMux.Testbed

/-!
# Soaking a device

Four workers share one device: one sends, one removes and adds sessions again, one plays the modem
and completes what was sent, and one receives. `Soak.step` is one operation of one worker and
`Soak.run` any interleaving of their operations; the program takes them in turns.
-/

namespace ModemMux

/-- What the workers have counted. -/
structure Tally where
  sent : Nat := 0
  busy : Nat := 0
  /-- Frames whose session was away. -/
  rejected : Nat := 0
  /-- Payloads that the modem has completed. -/
  completed : Nat := 0
  received : Nat := 0
  /-- How often every second session was removed and added again. -/
  churnCycles : Nat := 0
  /-- Answers that no worker should get. -/
  unexpected : Nat := 0
  deriving DecidableEq, Repr, Inhabited

namespace Tally

/-- The number of frames that were handed down. -/
def accounted (t : Tally) : Nat := t.sent + t.busy + t.rejected

/-- Counts the outcome of one transmission. Sessions come and go below the sender, so that one is
away is nothing unexpected. -/
def transmitted (t : Tally) : Except MuxError TxStatus → Tally
  | .ok .sent => { t with sent := t.sent + 1 }
  | .ok (.busy _) => { t with busy := t.busy + 1 }
  | .error (.unknownSession _) | .error (.io _ _) => { t with rejected := t.rejected + 1 }
  | .ok .discarded | .error _ => { t with unexpected := t.unexpected + 1 }

end Tally

inductive Worker where
  | sender
  | churn
  | drain
  | receiver
  deriving DecidableEq, Repr

/-- What is left of a round of the churn worker. -/
inductive ChurnStep where
  | remove (tag : Tag)
  | add (tag : Tag)
  /-- The end of the round. -/
  | turn
  deriving DecidableEq, Repr

/-- What is left of a round of the drain worker. -/
inductive DrainStep where
  /-- A channel, with the tag that it was bound to at the start of the round. -/
  | channel (tag : Tag) (id : ChannelId)
  /-- A payload that was taken off a channel and is still to be counted. -/
  | payload (id : SessionId) (length : Nat)
  deriving DecidableEq, Repr

/-- What is left of a round of the receiver. -/
inductive ReceiveStep where
  | receive (id : SessionId)
  /-- Takes the frames off the host. -/
  | take
  deriving DecidableEq, Repr

/-- A device with its workers. -/
structure Soak where
  rig : Rig
  /-- The number of IP sessions. -/
  sessions : Nat
  /-- The number of frames that the sender has handed down. -/
  frames : Nat := 0
  /-- What is left for the churn worker; it gives up at the first error. -/
  churn : Option (List ChurnStep) := some []
  drain : List DrainStep := []
  receiver : List ReceiveStep := []
  tally : Tally := {}

inductive SoakError where
  | initFailed (source : MuxError)
  | openFailed (source : MuxError)
  | sessionFailed (source : MuxError)
  deriving DecidableEq, Repr

namespace Soak

/-- The smallest IPv4 packet: a header of twenty bytes for a datagram. -/
def packet : Bytes := [0x45, 0, 0, 20, 0, 0, 0, 0, 64, 17, 0, 0, 0, 0, 0, 0, 0, 0, 0, 0]

/-! ## The set-up -/

def backlog : Nat := 1024

/-- A modem with a channel for each session and for all that the modem has besides, and a host that
keeps so many frames and no more. -/
def testbed (sessions : Nat) : Testbed where
  modem := { config := { maxChannels := sessions + ChannelConfig.reserved } }
  host := { limit := some backlog }

/-- Adds the sessions with the given tags, up to the first that is refused. -/
def addEach : List Tag → Rig → Except MuxError Rig
  | [], rig => .ok rig
  | tag :: tags, rig =>
    match rig.apply (·.addSession tag) with
    | (.error e, _) => .error e
    | (.ok _, rig) => addEach tags rig

def firstTags (sessions : Nat) : List Tag :=
  (List.range sessions).map fun n ↦ UInt16.ofNat (n + 1)

/-- A device that is up, with so many sessions and idle workers. -/
def start (sessions : Nat) (spare : Mac) : Except SoakError Soak :=
  match Device.init { maxSessions := sessions } spare (testbed sessions) with
  | .error (e, _) => .error (.initFailed e)
  | .ok device =>
    match device.openUp with
    | (.error e, _) => .error (.openFailed e)
    | (.ok (), device) =>
      match addEach (firstTags sessions) { device } with
      | .error e => .error (.sessionFailed e)
      | .ok rig => .ok { rig, sessions }

/-! ## The workers' operations -/

variable (s : Soak)

/-- The tag of the next frame: the sessions take turns. -/
def nextTag : Tag := UInt16.ofNat (s.frames % s.sessions + 1)

/-- The sender hands down one frame. The memory is what its transmission meets. -/
def send (memory : Memory) : Soak :=
  let mac := s.rig.device.mac
  let frame := Frame.ethernet s.nextTag mac.peer mac EtherType.ipv4 packet
  match s.rig.transmit memory frame with
  | (answer, rig) => { s with rig, frames := s.frames + 1, tally := s.tally.transmitted answer }

/-- A round of the churn worker: every session with an odd tag is removed and added again. -/
def churnRound : List ChurnStep :=
  let odd := (firstTags s.sessions).filter (·.toNat % 2 = 1)
  odd.flatMap (fun tag ↦ [.remove tag, .add tag]) ++ [.turn]

/-- The soak after an operation of the churn worker, which has `rest` left. -/
def churned {α : Type} (rest : List ChurnStep) : Except MuxError α × Rig → Soak
  | (.ok _, rig) => { s with rig, churn := some rest }
  | (.error _, rig) =>
    { s with rig, churn := none, tally := { s.tally with unexpected := s.tally.unexpected + 1 } }

def stepChurn : Soak :=
  match s.churn with
  | none => s
  | some [] => { s with churn := some s.churnRound }
  | some (.remove tag :: rest) => s.churned rest (s.rig.apply (·.removeSession tag))
  | some (.add tag :: rest) => s.churned rest (s.rig.apply (·.addSession tag))
  | some (.turn :: rest) =>
    { s with churn := some rest, tally := { s.tally with churnCycles := s.tally.churnCycles + 1 } }

/-- The session whose payloads wait on a channel that is bound to a tag. -/
def sessionOf (tag : Tag) : SessionId := UInt32.ofNat (tag.toNat - 1)

/-- The drain worker takes its next step, or looks which channels are open. A payload may be counted
after its session has gone. -/
def stepDrain : Soak :=
  match s.drain with
  | [] => { s with drain := s.rig.modem.openChannels.map fun c ↦ .channel c.1 c.2 }
  | .channel tag id :: rest =>
    match s.rig.drain id with
    | (payloads, rig) =>
      { s with
        rig
        drain := payloads.map (fun p ↦ .payload (sessionOf tag) p.length) ++ rest }
  | .payload id length :: rest =>
    match s.rig.apply (·.updateStats id (UInt64.ofNat length) .uplink) with
    | (_, rig) =>
      { s with
        rig
        drain := rest
        tally := { s.tally with completed := s.tally.completed + 1 } }

/-- A round of the receiver: one packet for each session, after which the frames are taken. -/
def receiveRound : List ReceiveStep :=
  (List.range s.sessions).map (fun n ↦ .receive (UInt32.ofNat n)) ++ [.take]

def stepReceiver : Soak :=
  match s.receiver with
  | [] => { s with receiver := s.receiveRound }
  | .receive id :: rest =>
    let buffer := List.replicate Frame.plainHeader 0 ++ packet
    match s.rig.apply (·.receive id buffer false) with
    | (.ok (), rig) =>
      { s with
        rig
        receiver := rest
        tally := { s.tally with received := s.tally.received + 1 } }
    | (.error _, rig) =>
      { s with
        rig
        receiver := rest
        tally := { s.tally with unexpected := s.tally.unexpected + 1 } }
  | .take :: rest => { s with rig := s.rig.takeFrames.2, receiver := rest }

def step (memory : Memory) (worker : Worker) : Soak :=
  match worker with
  | .sender => s.send memory
  | .churn => s.stepChurn
  | .drain => s.stepDrain
  | .receiver => s.stepReceiver

/-- Operations of the workers in the given order. -/
def run (memory : Memory) (schedule : List Worker) : Soak :=
  schedule.foldl (fun s worker ↦ s.step memory worker) s

/-! ## The program's schedule -/

/-- One operation of each worker. -/
def turns : List Worker := [.sender, .churn, .drain, .receiver]

/-- The workers take turns until the sender has handed down so many frames. -/
def takeTurns (memory : Memory) : Nat → Soak → Soak
  | 0, s => s
  | n + 1, s => takeTurns memory n (s.run memory turns)

/-- The workers finish the rounds they are in, one worker after the other. -/
def finish (memory : Memory) : Soak :=
  let s := s.run memory (List.replicate (s.churn.getD []).length .churn)
  let s := s.run memory (List.replicate s.receiver.length .receiver)
  let waiting := s.rig.modem.channels.foldl (fun n c ↦ n + c.queue.length) 0
  s.run memory (List.replicate (s.drain.length + waiting) .drain)

end Soak

end ModemMux
