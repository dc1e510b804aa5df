import ModemMux.Bench.Faults

/-!
# A test bench

On a bench a device runs over a fixture, and every call between the two is noted, in order with the
signals that the device was made to obey. The flow control of a device and the sessions found in it
outlive the device.
-/

namespace ModemMux

/-- What can be seen of a device from outside. -/
inductive BenchEvent where
  | call (call : Call)
  /-- A signal, and whether there was a session to obey it. -/
  | signal (signal : Signal) (obeyed : Bool)

structure Bench where
  device : Device (Recorded Fixture)
  /-- Whether the device has not ended. -/
  alive : Bool := true
  /-- Whether signals of the modem reach the device. -/
  hooked : Bool := false
  /-- The session that was found last and is held on to. -/
  held : Option Entry := none
  /-- The frame that was handed back last. -/
  returned : Option Frame := none

namespace Bench

/-- Sets up a device. A failure comes with the calls made before it. -/
def init (config : Config) (spare : Mac) (fixture : Fixture) (hooked : Bool) :
    Except (MuxError × List Call) (List Call × Bench) :=
  match Device.init config spare (Recorded.fresh fixture) with
  | .error (e, peers) => .error (e, fixture.visible peers.calls)
  | .ok device =>
    .ok (fixture.visible device.peers.calls,
      { device := { device with peers := .fresh device.peers.peers }, hooked })

variable (b : Bench)

def fixture : Fixture := b.device.peers.peers

def withFixture (fixture : Fixture) : Bench :=
  { b with device := { b.device with peers := { b.device.peers with peers := fixture } } }

def modem : Loopback := b.fixture.testbed.modem

def host : Collector := b.fixture.testbed.host

def withModem (modem : Loopback) : Bench :=
  b.withFixture (b.fixture.withTestbed { b.fixture.testbed with modem })

def withHost (host : Collector) : Bench :=
  b.withFixture (b.fixture.withTestbed { b.fixture.testbed with host })

/-- Takes the calls that were noted, and lets signals reach the device. -/
def collect (signals : List Signal) : List BenchEvent × Bench :=
  let calls := (b.fixture.visible b.device.peers.calls).map BenchEvent.call
  let device := { b.device with peers := .fresh b.fixture }
  if b.hooked then
    match device.heed signals with
    | (notices, device) =>
      (calls ++ notices.map fun n ↦ .signal n.1 n.2, { b with device })
  else (calls, { b with device })

def apply {α : Type} (operation : Device (Recorded Fixture) → α × Device (Recorded Fixture)) :
    α × List BenchEvent × Bench :=
  match operation b.device with
  | (answer, device) => (answer, { b with device }.collect [])

/-- Hands an inbound frame to the host, as the device does. -/
def deliver (frame : Frame) : Delivery × List BenchEvent × Bench :=
  b.apply fun device ↦
    match HostStack.deliver frame device.peers with
    | (verdict, peers) => (verdict, { device with peers })

def drain (channel : ChannelId) : List Bytes × List BenchEvent × Bench :=
  match b.modem.drain channel with
  | (payloads, signals, modem) => (payloads, (b.withModem modem).collect signals)

/-- Hands a frame down and holds on to it if it comes back. -/
def transmit (frame : Frame) : Except MuxError TxStatus × List BenchEvent × Bench :=
  match b.device.transmit .ample frame with
  | (answer, signals, device) =>
    let returned := match answer with
      | .ok (.busy back) => some back
      | _ => b.returned
    (answer, { b with device, returned }.collect signals)

/-- Hands down the frame that came back last. -/
def resubmit : Option (Except MuxError TxStatus × List BenchEvent × Bench) :=
  b.returned.map fun frame ↦ { b with returned := none }.transmit frame

/-- Hands the same frame down a number of times, without holding on to what comes back. -/
def transmitTimes (frame : Frame) :
    Nat → Bench → List (Except MuxError TxStatus) × List BenchEvent × Bench
  | 0, b => ([], [], b)
  | n + 1, b =>
    match b.transmit frame with
    | (answer, events, next) =>
      match transmitTimes frame n { next with returned := b.returned } with
      | (answers, later, last) => (answer :: answers, events ++ later, last)

/-- Ends the device in one of the two ways it can end. -/
def finish (ending : Device (Recorded Fixture) → Device (Recorded Fixture)) :
    List BenchEvent × Bench :=
  { b with device := ending b.device, alive := false }.collect []

end Bench

end ModemMux
