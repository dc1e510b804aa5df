import ModemMux.Scenario
import ModemMux.Testbed

/-!
# Running a scenario

A device over a modem and a host in memory takes the steps of a scenario. `Rig.performAll` takes
all of them, `Rig.performStrict` stops at the first that fails.
-/

namespace ModemMux

/-- What becomes of a step that does not fail. -/
inductive StepResult where
  | added (channel : ChannelId)
  | removed
  | transmitted (status : TxStatus)
  | delivered
  | flow (engaged : Bool)
  /-- The payloads that were taken off the channel. -/
  | completed (payloads : List Bytes)
  | resized (mtu : Nat)
  | up
  | down
  deriving DecidableEq, Repr

def StepResult.message : StepResult → String
  | .added channel => s!"channel {channel.display}"
  | .removed => "removed"
  | .transmitted .sent => "sent"
  | .transmitted (.busy frame) => s!"busy ({frame.length} bytes returned)"
  | .transmitted .discarded => "discarded"
  | .delivered => "delivered"
  | .flow engaged => if engaged then "stopped" else "started"
  | .completed payloads => s!"{payloads.length} payloads completed"
  | .resized mtu => s!"mtu {mtu}"
  | .up => "up"
  | .down => "down"

inductive StepFailure where
  | refused (source : MuxError)
  | badPayload (fault : Hex.Fault)
  deriving DecidableEq, Repr

def StepFailure.message : StepFailure → String
  | .refused source => source.message
  | .badPayload fault => s!"bad payload: invalid hex: {fault.message}"

structure Outcome where
  /-- Its place in the scenario. -/
  index : Nat
  step : Step
  answer : Except StepFailure StepResult

namespace Outcome

def isOk (o : Outcome) : Bool := o.answer.toBool

def message (o : Outcome) : String :=
  match o.answer with
  | .ok result => result.message
  | .error failure => failure.message

end Outcome

namespace Rig

/-- The frame with which the host hands down a payload: it goes to the device's peer and announces
what the payload looks like. -/
def outbound (tag : Tag) (inBand : Bool) (payload : Bytes) (rig : Rig) : Frame :=
  let mac := rig.device.mac
  let etherType := (PayloadClass.sniff payload).etherType
  if inBand then .vlan tag mac.peer mac etherType payload
  else .ethernet tag mac.peer mac etherType payload

/-- The buffer in which the modem hands up a payload. -/
def inbound (payload : Bytes) : Bytes := List.replicate Frame.plainHeader 0 ++ payload

/-- Counts uplink payloads for a session, up to the first for which that fails. -/
def countEach (id : SessionId) : List Bytes → Rig → Except MuxError Unit × Rig
  | [], rig => (.ok (), rig)
  | payload :: payloads, rig =>
    match rig.apply (·.updateStats id (UInt64.ofNat payload.length) .uplink) with
    | (.error e, rig) => (.error e, rig)
    | (.ok (), rig) => countEach id payloads rig

/-- Takes all payloads off the channel of a session and counts them. -/
def complete (tag : Tag) (rig : Rig) : Except MuxError (List Bytes) × Rig :=
  match rig.device.registry.lookup tag with
  | none => (.error (.unknownSession tag), rig)
  | some entry =>
    match rig.drain entry.session.channel, tag.toSession? with
    | (payloads, rig), none => (.ok payloads, rig)
    | (payloads, rig), some id =>
      match rig.countEach id payloads with
      | (.ok (), rig) => (.ok payloads, rig)
      | (.error e, rig) => (.error e, rig)

/-- An answer of the device as the outcome of a step. -/
def conclude {α : Type} (result : α → StepResult) :
    Except MuxError α × Rig → Except StepFailure StepResult × Rig
  | (.ok a, rig) => (.ok (result a), rig)
  | (.error e, rig) => (.error (.refused e), rig)

/-- Takes one step. The memory is what a transmission meets. -/
def perform (memory : Memory) (step : Step) (rig : Rig) : Except StepFailure StepResult × Rig :=
  match step with
  | .add tag => conclude .added (rig.apply (·.addSession tag))
  | .remove tag => conclude (fun _ ↦ .removed) (rig.apply (·.removeSession tag))
  | .transmit tag payload inBand =>
    match payload.bytes with
    | .error fault => (.error (.badPayload fault), rig)
    | .ok data => conclude .transmitted (rig.transmit memory (rig.outbound tag inBand data))
  | .receive id payload control =>
    match payload.bytes with
    | .error fault => (.error (.badPayload fault), rig)
    | .ok data => conclude (fun _ ↦ .delivered) (rig.apply (·.receive id (inbound data) control))
  | .flowControl id engage =>
    conclude (fun _ ↦ .flow engage) (rig.apply (·.setFlowControl id engage))
  | .drain tag => conclude .completed (rig.complete tag)
  | .mtu mtu => conclude (fun _ ↦ .resized mtu) (rig.apply (·.changeMtu mtu))
  | .openUp => conclude (fun _ ↦ .up) (rig.apply (·.openUp))
  | .stop => (.ok .down, { rig with device := rig.device.stop })

/-- Takes all steps, of which the first is number `index`. -/
def performAll (memory : Memory) (index : Nat) : List Step → Rig → List Outcome × Rig
  | [], rig => ([], rig)
  | step :: steps, rig =>
    match rig.perform memory step with
    | (answer, rig) =>
      match performAll memory (index + 1) steps rig with
      | (outcomes, rig) => (⟨index, step, answer⟩ :: outcomes, rig)

end Rig

/-- A step that ended a run. -/
structure FailedStep where
  index : Nat
  step : Step
  failure : StepFailure
  deriving DecidableEq, Repr

/-- Takes the steps, of which the first is number `index`, up to one that fails. -/
def Rig.performStrict (memory : Memory) (index : Nat) :
    List Step → Rig → Except FailedStep (List Outcome × Rig)
  | [], rig => .ok ([], rig)
  | step :: steps, rig =>
    match rig.perform memory step with
    | (.error failure, _) => .error ⟨index, step, failure⟩
    | (.ok result, rig) =>
      match performStrict memory (index + 1) steps rig with
      | .error failed => .error failed
      | .ok (outcomes, rig) => .ok (⟨index, step, .ok result⟩ :: outcomes, rig)

structure SimulationReport where
  device : DeviceStats
  sessions : List Session
  outcomes : List Outcome
  /-- The number of frames that the host has kept. -/
  delivered : Nat

namespace SimulationReport

def failedSteps (r : SimulationReport) : Nat := r.outcomes.countP (!·.isOk)

def ofRig (outcomes : List Outcome) (rig : Rig) : SimulationReport where
  device := rig.device.stats
  sessions := rig.device.registry.sessions
  outcomes := outcomes
  delivered := rig.host.pending

end SimulationReport

inductive SimulationError where
  | initFailed (source : MuxError)
  | openFailed (source : MuxError)
  | stepFailed (failed : FailedStep)
  deriving DecidableEq, Repr

namespace Scenario

/-- The device that a scenario asks for, up, with a modem and a host around it. -/
def start (spare : Mac) (s : Scenario) : Except SimulationError Rig :=
  match Device.init s.config spare { modem := { config := s.loopback }, host := {} } with
  | .error (e, _) => .error (.initFailed e)
  | .ok device =>
    match device.openUp with
    | (.error e, _) => .error (.openFailed e)
    | (.ok (), device) => .ok { device }

def run (memory : Memory) (spare : Mac) (s : Scenario) :
    Except SimulationError SimulationReport :=
  match s.start spare with
  | .error e => .error e
  | .ok rig =>
    match rig.performAll memory 0 s.steps with
    | (outcomes, rig) => .ok (.ofRig outcomes rig)

/-- Takes the steps of a scenario until one fails. -/
def runStrict (memory : Memory) (spare : Mac) (s : Scenario) :
    Except SimulationError SimulationReport :=
  match s.start spare with
  | .error e => .error e
  | .ok rig =>
    match rig.performStrict memory 0 s.steps with
    | .error failed => .error (.stepFailed failed)
    | .ok (outcomes, rig) => .ok (.ofRig outcomes rig)

end Scenario

end ModemMux
