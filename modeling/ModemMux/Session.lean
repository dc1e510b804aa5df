import ModemMux.Channel.Id
import ModemMux.Counters
import ModemMux.Tag

/-!
# Sessions

A session binds a tag to a channel of the modem. It is made runnable, flow control stops and
restarts it, and when it is removed it loses its channel for good. What it has counted by then it
keeps.
-/

namespace ModemMux

inductive SessionState where
  /-- Removed: it has no channel. -/
  | unbound
  /-- Its channel takes payloads. -/
  | runnable
  /-- Its channel has asked for a stop. -/
  | flowControlled
  deriving DecidableEq, Repr

namespace SessionState

/-- The word for the state in reports. -/
def label : SessionState → String
  | .unbound => "unbound"
  | .runnable => "runnable"
  | .flowControlled => "flow_controlled"

/-- The word for the state in a table. -/
def title : SessionState → String
  | .unbound => "Unbound"
  | .runnable => "Runnable"
  | .flowControlled => "FlowControlled"

/-- The state after a flow-control request. An unbound session stays unbound. -/
def request (engage : Bool) : SessionState → SessionState
  | .unbound => .unbound
  | .runnable | .flowControlled => if engage then .flowControlled else .runnable

@[simp] theorem request_request (e e' : Bool) (s : SessionState) :
    (s.request e).request e' = s.request e' := by
  cases s <;> cases e <;> cases e' <;> rfl

@[simp] theorem request_eq_unbound_iff {e : Bool} {s : SessionState} :
    s.request e = .unbound ↔ s = .unbound := by
  cases s <;> cases e <;> simp [request]

end SessionState

structure Session where
  /-- How many sessions had been made before this one: no two share it. -/
  serial : Nat
  tag : Tag
  channel : ChannelId
  state : SessionState
  counters : Counters
  deriving DecidableEq, Repr

namespace Session

def fresh (serial : Nat) (tag : Tag) (channel : ChannelId) : Session where
  serial := serial
  tag := tag
  channel := channel
  state := .runnable
  counters := .zero

/-- What the session may carry. -/
def tagClass (s : Session) : TagClass := s.tag.classify

def isFlowControlled (s : Session) : Bool := s.state == .flowControlled

def request (engage : Bool) (s : Session) : Session := { s with state := s.state.request engage }

def count (bytes : UInt64) (direction : Direction) (s : Session) : Session :=
  { s with counters := s.counters.record bytes direction }

def unbind (s : Session) : Session := { s with channel := .invalid, state := .unbound }

@[simp] theorem serial_request (e : Bool) (s : Session) : (s.request e).serial = s.serial := rfl
@[simp] theorem tag_request (e : Bool) (s : Session) : (s.request e).tag = s.tag := rfl
@[simp] theorem channel_request (e : Bool) (s : Session) : (s.request e).channel = s.channel := rfl
@[simp] theorem counters_request (e : Bool) (s : Session) :
    (s.request e).counters = s.counters := rfl

@[simp] theorem serial_count (n : UInt64) (d : Direction) (s : Session) :
    (s.count n d).serial = s.serial := rfl
@[simp] theorem tag_count (n : UInt64) (d : Direction) (s : Session) :
    (s.count n d).tag = s.tag := rfl
@[simp] theorem channel_count (n : UInt64) (d : Direction) (s : Session) :
    (s.count n d).channel = s.channel := rfl
@[simp] theorem state_count (n : UInt64) (d : Direction) (s : Session) :
    (s.count n d).state = s.state := rfl

@[simp] theorem serial_unbind (s : Session) : s.unbind.serial = s.serial := rfl
@[simp] theorem tag_unbind (s : Session) : s.unbind.tag = s.tag := rfl
@[simp] theorem counters_unbind (s : Session) : s.unbind.counters = s.counters := rfl

end Session

end ModemMux
