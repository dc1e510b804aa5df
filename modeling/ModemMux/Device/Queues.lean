import ModemMux.Device

/-!
# Transmit queues

The host keeps a queue for each IP session and one, queue 0, for the root device and all control
sessions. `selectQueue` says which queue takes a frame, `queueStopped` whether the host must hold a
queue back.
-/

namespace ModemMux

/-- The queue of frames that no queue carries. -/
def invalidQueue : UInt16 := 0xFFFF

/-- The queue for frames of a tag: its own for an IP session among the first `maxSessions`, queue 0
for control sessions, the root device and frames without a tag. -/
def selectQueue (tag? : Option Tag) (maxSessions : Nat) : UInt16 :=
  match tag? with
  | none => 0
  | some tag =>
    match tag.classify with
    | .root | .control => 0
    | .data => if tag.toNat ≤ maxSessions then tag else invalidQueue
    | .invalid => invalidQueue

namespace Device

variable {ω : Type}

def selectQueue (frame : Frame) (d : Device ω) : UInt16 :=
  ModemMux.selectQueue frame.tag? d.maxSessions

/-- Asks the session with an id to stop or to restart. -/
def setFlowControl (id : SessionId) (engage : Bool) (d : Device ω) :
    Except MuxError Unit × Device ω :=
  match d.registry.heed ⟨id, engage⟩ with
  | (answer, registry) => (answer, { d with registry })

/-- Obeys the signals of the transport, and says of each whether there was a session to obey. -/
def heed (signals : List Signal) (d : Device ω) : List (Signal × Bool) × Device ω :=
  match d.registry.heedAll signals with
  | (notices, registry) => (notices, { d with registry })

/-- Whether the host must hand over no frame from a queue. All queues of a device that is down are
stopped, and so are queues that do not exist; queue 0 runs, and the queue of an IP session follows
its flow control. -/
def queueStopped (queue : UInt16) (d : Device ω) : Bool :=
  if d.up = false then true
  else if queue.toNat = 0 then false
  else if d.maxSessions < queue.toNat then true
  else d.registry.isFlowControlled queue

end Device

end ModemMux
