import ModemMux.Testbed
import ModemMux.Trace

/-!
# Faults of a modem

A fixture is a testbed whose modem can be made to misbehave, and whose host can be left out.
-/

namespace ModemMux

/-- What goes wrong between a device and its modem. -/
structure Faults where
  /-- The id that every opening yields, though no channel is opened. -/
  openId : Option ChannelId := none
  /-- Why no channel is closed. -/
  closeRefusal : Option String := none
  /-- Why no payload is taken. -/
  submitRefusal : Option String := none
  /-- What a channel that calls itself full hands back. -/
  submitRetry : Option Bytes := none

/-- A testbed with faults. -/
structure Fixture where
  testbed : Testbed
  faults : Faults := {}
  /-- Whether the host attaches every device and drops every frame. -/
  hostless : Bool := false

namespace Fixture

def withTestbed (f : Fixture) (testbed : Testbed) : Fixture := { f with testbed }

/-- The calls that can be seen: a host that is left out takes note of none. -/
def visible (f : Fixture) (calls : List Call) : List Call :=
  calls.filter fun call ↦ !(f.hostless && call.isUpward)

instance : Transport Fixture where
  openChannel tag f :=
    match f.faults.openId with
    | some id => (.ok id, f)
    | none =>
      match Transport.openChannel tag f.testbed with
      | (answer, testbed) => (answer, f.withTestbed testbed)
  closeChannel tag id f :=
    match f.faults.closeRefusal with
    | some reason => (.error (.refused tag reason), f)
    | none =>
      match Transport.closeChannel tag id f.testbed with
      | (answer, testbed) => (answer, f.withTestbed testbed)
  submit tag id payload f :=
    match f.faults.submitRefusal, f.faults.submitRetry with
    | some reason, _ => (.error (.refused tag reason), [], f)
    | none, some returned => (.ok (.retry returned), [], f)
    | none, none =>
      match Transport.submit tag id payload f.testbed with
      | (answer, signals, testbed) => (answer, signals, f.withTestbed testbed)

instance : HostStack Fixture where
  attach info f :=
    if f.hostless then (.ok (), f)
    else match HostStack.attach info f.testbed with
      | (answer, testbed) => (answer, f.withTestbed testbed)
  detach f := if f.hostless then f else f.withTestbed (HostStack.detach f.testbed)
  deliver frame f :=
    if f.hostless then (.dropped, f)
    else match HostStack.deliver frame f.testbed with
      | (verdict, testbed) => (verdict, f.withTestbed testbed)

end Fixture

end ModemMux
