import ModemMux.Proofs.Device.Operation
import ModemMux.Proofs.Device.Routing
import ModemMux.Proofs.Rig.Testbed

/-!
# Runs of a rig

A run is a list of actions: operations of the device, drains and faults of the modem, changes of the
host, and channels that are closed behind the device's back. `Rig.run` gives the events of a run and
the rig after it. A run starts from a fresh rig, on which no session was added yet; a device that
was just set up over a modem without channels is fresh (`Rig.isFresh_of_init`).
-/

namespace ModemMux.Rig

variable {η : Type}

/-! ## Actions -/

/-- What can happen on a rig. Channels are opened by the device alone. -/
inductive Action (η : Type) where
  | device (operation : Device.Operation)
  /-- Takes all payloads off a channel. -/
  | drain (channel : ChannelId)
  | refuseOpens (on : Bool)
  | failTransmits (on : Bool)
  /-- Closes a channel without the device. -/
  | steal (tag : Tag) (channel : ChannelId)
  /-- Whatever else becomes of the host. -/
  | changeHost (change : η → η)

inductive Reply where
  | device (reply : Device.Reply)
  | payloads (payloads : List Bytes)
  | closed (answer : Except ChannelError Unit)
  | done
  deriving DecidableEq, Repr

/-- An action with what it has yielded. -/
abbrev Event (η : Type) := Action η × Reply

/-- Whether an action leaves the opening and closing of channels to the device. -/
def Action.isLoyal : Action η → Bool
  | .steal _ _ => false
  | .device _ | .drain _ | .refuseOpens _ | .failTransmits _ | .changeHost _ => true

section

variable [HostStack η]

/-- The rig after one action, and what that yields. -/
def act (action : Action η) (rig : Rig η) : Reply × Rig η :=
  match action with
  | .device operation =>
    match rig.device.operate operation with
    | (reply, signals, device) => (.device reply, { rig with device }.heed signals)
  | .drain channel => (.payloads (rig.drain channel).1, (rig.drain channel).2)
  | .refuseOpens on => (.done, rig.withModem { rig.modem with refusesOpens := on })
  | .failTransmits on => (.done, rig.withModem { rig.modem with failsTransmits := on })
  | .steal tag channel =>
    match rig.modem.closeChannel tag channel with
    | (answer, modem) => (.closed answer, rig.withModem modem)
  | .changeHost change => (.done, rig.withHost (change rig.host))

/-- The events of a run, the first one first, and the rig after it. -/
def run : List (Action η) → Rig η → List (Event η) × Rig η
  | [], rig => ([], rig)
  | action :: actions, rig =>
    match rig.act action with
    | (reply, rig) =>
      match run actions rig with
      | (events, rig) => ((action, reply) :: events, rig)

/-- What each action that is allowed keeps, a run of such actions keeps. -/
theorem run_induction {P : Rig η → Prop} {allowed : Action η → Prop}
    (step : ∀ action rig, allowed action → P rig → P (rig.act action).2)
    {actions : List (Action η)} (ha : ∀ action ∈ actions, allowed action) {rig : Rig η}
    (h : P rig) : P (rig.run actions).2 := by
  induction actions generalizing rig with
  | nil => exact h
  | cons action actions ih =>
    exact ih (fun a hmem ↦ ha a (List.mem_cons_of_mem action hmem))
      (step action rig (ha action List.mem_cons_self) h)

end

/-! ## Signals -/

variable (rig : Rig η)

@[simp] theorem modem_heed (signals : List Signal) : (rig.heed signals).modem = rig.modem := by
  unfold heed
  split <;> rfl

/-- The device follows the signals of the modem if the rig is hooked, and else hears none of them.
-/
theorem registry_heed (signals : List Signal) : (rig.heed signals).device.registry =
    if rig.hooked then (rig.device.registry.heedAll signals).2 else rig.device.registry := by
  unfold heed
  split <;> rfl

@[simp] theorem host_heed (signals : List Signal) : (rig.heed signals).host = rig.host := by
  unfold heed
  split <;> rfl

@[simp] theorem hooked_heed (signals : List Signal) : (rig.heed signals).hooked = rig.hooked := by
  unfold heed
  split <;> rfl

@[simp] theorem registered_heed (signals : List Signal) :
    (rig.heed signals).device.registered = rig.device.registered := by
  unfold heed
  split <;> rfl

@[simp] theorem heed_nil : rig.heed [] = rig := by
  unfold heed
  split <;> rfl

variable [HostStack η]

@[simp] theorem modem_act_device (operation : Device.Operation) :
    (rig.act (.device operation)).2.modem = (rig.device.operate operation).2.2.peers.modem :=
  modem_heed _ _

theorem host_act_device (operation : Device.Operation) :
    (rig.act (.device operation)).2.host = (rig.device.operate operation).2.2.peers.host :=
  host_heed _ _

theorem registry_act_device (operation : Device.Operation) :
    (rig.act (.device operation)).2.device.registry =
      if rig.hooked then
        ((rig.device.operate operation).2.2.registry.heedAll (rig.device.operate operation).2.1).2
      else (rig.device.operate operation).2.2.registry :=
  registry_heed _ _

@[simp] theorem modem_act_drain (channel : ChannelId) :
    (rig.act (.drain channel)).2.modem = (rig.modem.drain channel).2.2 :=
  modem_heed _ _

theorem registry_act_drain (channel : ChannelId) :
    (rig.act (.drain channel)).2.device.registry =
      if rig.hooked then (rig.device.registry.heedAll (rig.modem.drain channel).2.1).2
      else rig.device.registry :=
  registry_heed _ _

/-! ## What an action leaves alone -/

variable {rig}

/-- Hosts and counters are no concern of the modem, nor of the device's life. -/
theorem operate_of_isQuiet {d : Device (Testbed η)} {operation : Device.Operation}
    (h : operation.isQuiet) :
    (d.operate operation).2.2.peers.modem = d.peers.modem ∧ (d.operate operation).2.1 = [] ∧
      (d.operate operation).2.2.registered = d.registered := by
  cases operation with
  | receive id buffer control =>
    refine ⟨?_, rfl, ?_⟩ <;>
    · simp only [Device.operate, Device.receive]
      split
      · rfl
      · split
        · rfl
        · split <;> rfl
  | updateStats id bytes direction =>
    refine ⟨?_, rfl, ?_⟩ <;>
    · simp only [Device.operate, Device.updateStats]
      split <;> rfl
  | changeMtu mtu =>
    refine ⟨?_, rfl, ?_⟩ <;>
    · simp only [Device.operate, Device.changeMtu]
      split <;> rfl
  | setMac mac =>
    refine ⟨?_, rfl, ?_⟩ <;>
    · simp only [Device.operate, Device.setMac]
      split
      · rfl
      · split <;> rfl
  | openUp =>
    refine ⟨?_, rfl, ?_⟩ <;>
    · simp only [Device.operate, Device.openUp]
      split <;> rfl
  | stop => exact ⟨rfl, rfl, rfl⟩
  | _ => cases h

/-- The host is concerned by what it is handed, and by nothing else. -/
theorem host_operate {operation : Device.Operation}
    (h : ∀ id buffer control, operation ≠ .receive id buffer control) (d : Device (Testbed η)) :
    (d.operate operation).2.2.peers.host = d.peers.host :=
  Device.part_operate Testbed.spares_host h

theorem hooked_act (action : Action η) (rig : Rig η) :
    (rig.act action).2.hooked = rig.hooked := by
  cases action with
  | device | drain => exact hooked_heed _ _
  | refuseOpens | failTransmits | steal | changeHost => rfl

theorem registered_act (action : Action η) (rig : Rig η) :
    (rig.act action).2.device.registered = rig.device.registered := by
  cases action with
  | device operation =>
    exact (registered_heed _ _).trans (Device.lasting_operate operation rig.device).2
  | drain => exact registered_heed _ _
  | refuseOpens | failTransmits | steal | changeHost => rfl

/-- A device that is attached stays attached, whatever the rig does. -/
theorem registered_run (h : rig.device.registered) (actions : List (Action η)) :
    (rig.run actions).2.device.registered :=
  run_induction (P := fun rig ↦ rig.device.registered)
    (fun action rig _ h ↦ (registered_act action rig).trans h) (fun _ _ ↦ trivial) h

/-- The set-up of a modem stays through all that is asked of it. -/
theorem config_operate (d : Device (Testbed η)) (operation : Device.Operation) :
    (d.operate operation).2.2.peers.modem.config = d.peers.modem.config := by
  by_cases hquiet : operation.isQuiet
  · rw [(operate_of_isQuiet hquiet).1]
  · cases operation with
    | addSession tag => exact (Testbed.adds_add tag d.registry d.peers).config_eq
    | removeSession tag => exact (Testbed.removes_remove tag d.registry d.peers).config_eq
    | removeSessions =>
      exact Registry.removeEach_induction
        (P := fun (_ : Registry) (t : Testbed η) ↦ t.modem.config = d.peers.modem.config)
        (fun tag r t h ↦ (Testbed.removes_remove tag r t).config_eq.trans h) d.registry.tags rfl
    | transmit memory frame =>
      have htransmits := Device.transmits_transmit memory frame d
      simp only [Device.operate]
      generalize d.transmit memory frame = outcome at htransmits
      cases htransmits with
      | discarded | refused => rfl
      | submitted _ _ _ _ _ hsubmit => exact (Testbed.submits hsubmit).config_eq
    | setFlowControl => rfl
    | _ => exact absurd rfl hquiet

theorem config_act (action : Action η) (rig : Rig η) :
    (rig.act action).2.modem.config = rig.modem.config := by
  cases action with
  | device operation =>
    rw [modem_act_device]
    exact config_operate rig.device operation
  | drain channel =>
    rw [modem_act_drain]
    exact Loopback.config_drain rig.modem channel
  | steal tag channel => exact (Loopback.closes_closeChannel rig.modem tag channel).config_eq
  | refuseOpens | failTransmits | changeHost => rfl

/-- The settings of the modem stay what they were. -/
theorem config_run (rig : Rig η) (actions : List (Action η)) :
    (rig.run actions).2.modem.config = rig.modem.config :=
  run_induction (P := fun rig' ↦ rig'.modem.config = rig.modem.config)
    (fun action rig' _ h ↦ (config_act action rig').trans h) (fun _ _ ↦ trivial) rfl

/-! ## Fresh rigs -/

/-- Whether a rig has a device in use, to which no session was added yet. -/
structure IsFresh (rig : Rig η) : Prop where
  registered : rig.device.registered
  sessions : rig.device.registry.sessions = []
  channels : rig.modem.channels = []

/-- A device in its default set-up that the host has just taken, over a modem with nothing on it. -/
def ofConfig (config : LoopbackConfig) : Rig where
  device := { Device.blank {} .zero ⟨{ config }, {}⟩ with registered := true }

/-- A rig that was just put together is fresh. -/
theorem isFresh_ofConfig (config : LoopbackConfig) : (ofConfig config).IsFresh := ⟨rfl, rfl, rfl⟩

def packet (tag : Tag) (content : UInt8) : Frame :=
  .ethernet tag .zero .zero EtherType.ipv4 [0x45, content]

/-- The set-up of a device leaves the modem alone. -/
theorem modem_of_init {config : Config} {spare : Mac} {peers : Testbed η}
    {device : Device (Testbed η)} (h : Device.init config spare peers = .ok device) :
    device.peers.modem = peers.modem := by
  have hinits := Device.inits_init config spare peers
  rw [h] at hinits
  cases hinits with
  | attached _ _ hattach => exact congrArg (fun answer ↦ answer.2.modem) hattach.symm

/-- A device that was just set up over a modem without channels makes a fresh rig. -/
theorem isFresh_of_init {config : Config} {spare : Mac} {modem : Loopback} {host : η}
    {device : Device (Testbed η)} (h : Device.init config spare ⟨modem, host⟩ = .ok device)
    (hmodem : modem.channels = []) (hooked : Bool) : IsFresh ⟨device, hooked⟩ := by
  have hinits := Device.inits_init config spare (⟨modem, host⟩ : Testbed η)
  have hpeers := modem_of_init h
  rw [h] at hinits
  cases hinits with
  | attached => exact ⟨rfl, rfl, (congrArg Loopback.channels hpeers).trans hmodem⟩

end ModemMux.Rig
