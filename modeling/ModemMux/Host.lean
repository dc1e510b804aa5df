import ModemMux.Frame

/-!
# The host's network stack

The root device is attached to a host stack, which takes inbound frames from it or drops them. The
collector is a host stack that keeps the frames it takes, up to a limit if it has one.
-/

namespace ModemMux

structure DeviceInfo where
  name : String
  mac : Mac
  mtu : Nat
  /-- The number of transmit queues: one for the root device and one for each IP session. -/
  txQueues : Nat
  deriving DecidableEq, Repr

inductive Delivery where
  | accepted
  | dropped
  deriving DecidableEq, Repr

/-- A host stack whose state is part of `ω`. -/
class HostStack (ω : Type) where
  /-- Registers a device, or says why not. -/
  attach : DeviceInfo → ω → Except String Unit × ω
  /-- Unregisters the device. -/
  detach : ω → ω
  /-- Hands over an inbound frame. -/
  deliver : Frame → ω → Delivery × ω

/-- A host stack that keeps inbound frames. -/
structure Collector where
  /-- The frames it keeps, the oldest first. -/
  frames : List Frame := []
  /-- How many frames it keeps at most. -/
  limit : Option Nat := none
  attached : Bool := false
  /-- Whether it attaches no device any more. -/
  rejectsAttach : Bool := false
  /-- The device that was attached last. -/
  info : Option DeviceInfo := none
  deriving DecidableEq, Repr, Inhabited

namespace Collector

variable (c : Collector)

def pending : Nat := c.frames.length

def isFull : Bool := c.limit.any (· ≤ c.pending)

def attach (info : DeviceInfo) : Except String Unit × Collector :=
  if c.rejectsAttach then (.error s!"{info.name} refused by host", c)
  else (.ok (), { c with attached := true, info := some info })

/-- Unregisters the device; what it was is not forgotten. -/
def detach : Collector := { c with attached := false }

/-- Keeps a frame, unless it is full. -/
def deliver (frame : Frame) : Delivery × Collector :=
  if c.isFull then (.dropped, c) else (.accepted, { c with frames := c.frames ++ [frame] })

def takeFrames : List Frame × Collector := (c.frames, { c with frames := [] })

end Collector

instance : HostStack Collector where
  attach info c := c.attach info
  detach c := c.detach
  deliver frame c := c.deliver frame

end ModemMux
