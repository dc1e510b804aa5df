import ModemMux.Proofs.Device.Inbound
import ModemMux.Proofs.Device.Operation
import ModemMux.Proofs.Registry.Identity
import ModemMux.Testbed

/-!
# Lives of a device

A life is a list of steps: operations of the device, requests that reach its session table past it,
whatever else becomes of its peers, and its end. The signals of the transport are steps of their
own, so a life has them heeded or not, and others at any time. `Device.departed` and
`Device.counted` read off a life which sessions it has removed and which packets it has counted;
the table evolves accordingly (`evolves_run`), over any transport and any host. So an entry that was
found in the table shows its session for as long as one holds it, alive or not (`current_held`).
-/

namespace ModemMux.Device

open Counters (Packet)

variable {ω : Type}

/-- What can happen to a device. -/
inductive Step (ω : Type) where
  | operate (operation : Operation)
  /-- Counts a packet in the session table. -/
  | count (tag : Tag) (bytes : UInt64) (direction : Direction)
  /-- A request of the channel layer, or of anyone else who can ask sessions to stop. -/
  | signal (signal : Signal)
  /-- Whatever else becomes of the transport and the host. -/
  | changePeers (change : ω → ω)
  | deinit
  | drop

def Step.isEnd : Step ω → Bool
  | .deinit | .drop => true
  | .operate _ | .count _ _ _ | .signal _ | .changePeers _ => false

variable [Transport ω] [HostStack ω]

def advance (step : Step ω) (d : Device ω) : Device ω :=
  match step with
  | .operate operation => (d.operate operation).2.2
  | .count tag bytes direction =>
    { d with registry := (d.registry.count tag bytes direction).2 }
  | .signal signal => { d with registry := (d.registry.heed signal).2 }
  | .changePeers change => { d with peers := change d.peers }
  | .deinit => d.deinit
  | .drop => d.drop

/-- A device ends one way, whether its owner wishes it or gives it up. -/
theorem advance_of_isEnd {step : Step ω} (h : step.isEnd) (d : Device ω) :
    d.advance step = d.shutdown := by
  cases step with
  | deinit => exact d.deinit_eq_shutdown
  | drop => rfl
  | _ => cases h

def run (steps : List (Step ω)) (d : Device ω) : Device ω :=
  steps.foldl (fun d step ↦ d.advance step) d

/-- Steps taken in two goes are the same run. -/
theorem run_append (steps more : List (Step ω)) (d : Device ω) :
    d.run (steps ++ more) = (d.run steps).run more :=
  List.foldl_append

/-- What each step keeps, a life keeps. -/
theorem run_induction {P : Device ω → Prop} {steps : List (Step ω)}
    (hsteps : ∀ step ∈ steps, ∀ d, P d → P (d.advance step)) {d : Device ω} (h : P d) :
    P (d.run steps) := by
  induction steps generalizing d with
  | nil => exact h
  | cons step steps ih =>
    obtain ⟨hfirst, hrest⟩ := List.forall_mem_cons.1 hsteps
    exact ih hrest (hfirst d h)

/-! ## What a life removes and counts -/

/-- The sessions whose removal a step asks for and gets, each as it was just before. -/
def Step.departed (step : Step ω) (d : Device ω) : List Session :=
  match step with
  | .operate (.removeSession tag) => d.registry.departures [tag] d.peers
  | .operate .removeSessions => d.registry.departures d.registry.tags d.peers
  | .deinit | .drop =>
    if d.registered then d.registry.departures d.registry.tags (HostStack.detach d.peers) else []
  | _ => []

/-- The packet that a step counts, if it counts one: that of an update which succeeds, or a frame
that is received for a live session. -/
def Step.counted (step : Step ω) (d : Device ω) : List Packet :=
  match step with
  | .operate (.updateStats id bytes direction) =>
    if (d.updateStats id bytes direction).1.toBool then [⟨bytes, direction⟩] else []
  | .count tag bytes direction =>
    if (d.registry.count tag bytes direction).1.toBool then [⟨bytes, direction⟩] else []
  | .operate (.receive id buffer control) =>
    if (d.receive id buffer control).1.toBool && (Tag.ofSession? id).any (· ∈ d.registry.tags)
    then [⟨UInt64.ofNat (buffer.length - Frame.plainHeader), .downlink⟩]
    else []
  | _ => []

/-- The sessions that a life removes, in the order in which they go. -/
def departed : List (Step ω) → Device ω → List Session
  | [], _ => []
  | step :: steps, d => step.departed d ++ departed steps (d.advance step)

/-- The packets that a life counts, in order. -/
def counted : List (Step ω) → Device ω → List Packet
  | [], _ => []
  | step :: steps, d => step.counted d ++ counted steps (d.advance step)

/-! ## The table -/

variable {d : Device ω}

omit [Transport ω] [HostStack ω] in
theorem evolves_updateStats (id : SessionId) (bytes : UInt64) (direction : Direction) :
    Registry.Evolves d.registry []
      (if (d.updateStats id bytes direction).1.toBool then [⟨bytes, direction⟩] else [])
      (d.updateStats id bytes direction).2.registry := by
  unfold updateStats
  split
  · exact .refl
  next tag _ => exact Registry.evolves_count tag bytes direction d.registry

omit [Transport ω] in
theorem evolves_receive (id : SessionId) (buffer : Bytes) (control : Bool) :
    Registry.Evolves d.registry [] (Step.counted (.operate (.receive id buffer control)) d)
      (d.receive id buffer control).2.registry := by
  have hreceives := receives_receive id buffer control d
  simp only [Step.counted]
  generalize d.receive id buffer control = outcome at hreceives
  cases hreceives with
  | refused => exact .refl
  | @received tag _ hid =>
    have hcount := Registry.evolves_count tag
      (UInt64.ofNat (buffer.length - Frame.plainHeader)) .downlink d.registry
    rw [Registry.toBool_count] at hcount
    simpa only [hid, Option.any_some, Except.toBool, Bool.true_and] using hcount

/-- One operation lets sessions come and go, and counts packets, as the two lists say. -/
theorem evolves_operate (operation : Operation) (d : Device ω) :
    Registry.Evolves d.registry (Step.departed (.operate operation) d)
      (Step.counted (.operate operation) d) (d.operate operation).2.2.registry := by
  cases operation with
  | addSession tag => exact Registry.evolves_add tag d.registry d.peers
  | removeSession tag => exact Registry.evolves_remove tag d.registry d.peers
  | removeSessions => exact Registry.evolves_removeEach d.registry.tags d.registry d.peers
  | transmit memory frame => exact .of_eq (registry_transmit memory frame)
  | receive id buffer control => exact evolves_receive id buffer control
  | setFlowControl id engage => exact Registry.evolves_heed ⟨id, engage⟩ d.registry
  | updateStats id bytes direction => exact evolves_updateStats id bytes direction
  | changeMtu mtu => exact .of_eq (registry_changeMtu mtu)
  | setMac mac => exact .of_eq (registry_setMac mac)
  | openUp => exact .of_eq registry_openUp
  | stop => exact .refl

/-- A shutdown lets all sessions go, and counts nothing. -/
theorem evolves_shutdown (d : Device ω) :
    Registry.Evolves d.registry (Step.departed .drop d) [] d.shutdown.registry := by
  unfold shutdown
  simp only [Step.departed]
  split
  · exact Registry.evolves_removeEach d.registry.tags d.registry (HostStack.detach d.peers)
  · exact .refl

/-- What a step removes and counts is all that matters to the table, whatever the peers answer. -/
theorem evolves_advance (step : Step ω) (d : Device ω) :
    Registry.Evolves d.registry (step.departed d) (step.counted d) (d.advance step).registry := by
  cases step with
  | operate operation => exact evolves_operate operation d
  | count tag bytes direction => exact Registry.evolves_count tag bytes direction d.registry
  | signal signal => exact Registry.evolves_heed signal d.registry
  | changePeers change => exact .refl
  | deinit | drop =>
    rw [advance_of_isEnd rfl]
    exact evolves_shutdown d

/-- A whole run lets sessions come and go, and counts packets, as the lists of its steps say. -/
theorem evolves_run (steps : List (Step ω)) (d : Device ω) :
    Registry.Evolves d.registry (d.departed steps) (d.counted steps) (d.run steps).registry := by
  induction steps generalizing d with
  | nil => exact .refl
  | cons step steps ih => exact (evolves_advance step d).trans (ih (d.advance step))

/-! ## The beginning -/

omit [Transport ω] in
/-- A device that was just set up has an empty table, with room for the IP sessions and for the
modem's other channels. -/
theorem registry_of_init {config : Config} {spare : Mac} {peers : ω}
    (h : init config spare peers = .ok d) :
    d.registry = .empty (config.maxSessions + ChannelConfig.reserved) := by
  have hinits := inits_init config spare peers
  rw [h] at hinits
  cases hinits
  rfl

/-- At any time of a device's life its table is sound, and its sessions are numbered. -/
theorem sound_run {config : Config} {spare : Mac} {peers : ω}
    (h : init config spare peers = .ok d) (steps : List (Step ω)) :
    (d.run steps).registry.Sound ∧ (d.run steps).registry.Numbered := by
  have hevolves := evolves_run steps d
  rw [registry_of_init h] at hevolves
  exact ⟨hevolves.sound (Registry.sound_of_sessions_eq_nil rfl),
    hevolves.numbered (Registry.numbered_empty _)⟩

/-- A device in its default set-up that a host has just taken, over a modem with nothing on it. -/
def initial : Device Testbed :=
  let host : Collector := { attached := true, info := some ⟨"wwan0", .zero, 1500, 9⟩ }
  { blank {} .zero ⟨{}, host⟩ with registered := true }

theorem init_initial : init {} .zero (⟨{}, {}⟩ : Testbed) = .ok initial := rfl

/-! ## Entries that are held -/

/-- Whoever has found a session under its tag and holds the entry sees what becomes of the session,
whatever the transport answers. Until the session is removed the entry shows the live session of
that tag, wherever in the table that is by now. Once it is removed the entry shows it without its
channel, with the counters it had then, and so it stays: no live session is that session, though one
may have its tag, and nothing that happens later changes what the entry shows. -/
theorem current_held {config : Config} {spare : Mac} {peers : ω}
    (h : init config spare peers = .ok d) (before : List (Step ω)) {tag : Tag} {e : Entry}
    (he : (d.run before).registry.lookup tag = some e) (after : List (Step ω)) :
    let held := d.run before
    let r := (held.run after).registry
    let gone := held.departed after
    (tag ∉ gone.map (·.tag) → ∃ index, r.lookup tag = some ⟨index, r.current e⟩) ∧
    (tag ∈ gone.map (·.tag) →
      (r.current e).channel = .invalid ∧ (r.current e).state = .unbound ∧
      (∃ s ∈ gone, s.serial = e.session.serial ∧ s.tag = tag ∧
        (r.current e).counters = s.counters) ∧
      (∀ s ∈ r.sessions, s.serial ≠ e.session.serial) ∧
      ∀ more, ((held.run after).run more).registry.current e = r.current e) := by
  intro held r gone
  obtain ⟨hsound, hnumbered⟩ : held.registry.Sound ∧ held.registry.Numbered := sound_run h before
  have hevolves : Registry.Evolves held.registry gone (held.counted after) r :=
    evolves_run after held
  refine ⟨fun htag ↦ hevolves.current_of_live hsound hnumbered he htag, fun htag ↦ ?_⟩
  obtain ⟨s, hs, hserial, hstag, hcurrent, hother⟩ :=
    hevolves.current_of_gone hsound hnumbered he htag
  rw [hcurrent]
  refine ⟨rfl, rfl, ⟨s, hs, hserial, hstag, rfl⟩, hother, fun more ↦ ?_⟩
  exact (evolves_run more (held.run after)).current_eq (hevolves.numbered hnumbered)
    (hevolves.unbind_mem_retired hs) hserial

/-- Of two sessions the older one goes first and then the other, whose tag and channel go to a new
session. -/
def outlive : List (Step Testbed) :=
  [.operate (.updateStats 1 5 .uplink), .operate (.removeSession 1), .operate (.removeSession 2),
    .operate (.addSession 2), .operate (.setFlowControl 1 true),
    .operate (.updateStats 1 9 .uplink)]

/-- The entry of the second session shows the live one when the first is gone, and is unbound in
the end, while the new session of its tag is stopped. -/
theorem current_outlive :
    let held := initial.run [.operate (.addSession 1), .operate (.addSession 2)]
    let e : Entry := ⟨1, 1, 2, .ofNat 1, .runnable, .zero⟩
    init {} .zero ⟨{}, {}⟩ = .ok initial ∧ held.registry.lookup 2 = some e ∧
    (∃ index, (held.run (outlive.take 2)).registry.lookup 2 =
      some ⟨index, (held.run (outlive.take 2)).registry.current e⟩) ∧
    ((held.run outlive).registry.current e).state = .unbound ∧
    (held.run outlive).registry.isFlowControlled 2 := by
  intro held e
  have he : held.registry.lookup 2 = some e := by decide
  obtain ⟨hlive, -⟩ := current_held init_initial _ he (outlive.take 2)
  obtain ⟨-, hgone⟩ := current_held init_initial _ he outlive
  exact ⟨init_initial, he, hlive (by decide), (hgone (by decide)).2.1, by decide⟩

end ModemMux.Device
