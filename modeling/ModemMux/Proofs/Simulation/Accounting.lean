import ModemMux.Proofs.Device.Conservation
import ModemMux.Proofs.Loopback.Waiting
import ModemMux.Proofs.Simulation.Steps

/-!
# What a report adds up to

The numbers of a report come from the host, from the counters of the device and from the modem. Each
of them follows from the outcomes of the steps and from the rigs on which they were taken: a step
changes the host's backlog (`Rig.pending_perform`), the counters (`Rig.totals_perform`) and what
waits in the modem (`Rig.waiting_perform`) by what its outcome says, and a step that fails changes
nothing. `Scenario.run_accounts` sums this up over a run.
-/

namespace ModemMux

/-! ## Stages of a run -/

/-- A step that was taken, with the rig on which it was taken. -/
structure Stage where
  rig : Rig
  outcome : Outcome

namespace Outcome

/-- Whether a step has handed a payload up. -/
def isDelivery (o : Outcome) : Bool :=
  match o.step, o.answer with
  | .receive _ _ _, .ok _ => true
  | _, _ => false

/-- Whether a step has handed a payload down to a channel. -/
def isSent (o : Outcome) : Bool :=
  match o.step, o.answer with
  | .transmit _ _ _, .ok (.transmitted .sent) => true
  | _, _ => false

/-- The payloads that a step has drained. -/
def completed (o : Outcome) : List Bytes :=
  match o.step, o.answer with
  | .drain _, .ok (.completed payloads) => payloads
  | _, _ => []

end Outcome

namespace Stage

/-- The payload that a step has handed up for a live session. -/
def received (s : Stage) : List Bytes :=
  match s.outcome.step, s.outcome.answer with
  | .receive id payload _, .ok _ =>
    if (Tag.ofSession? id).any (· ∈ s.rig.device.registry.tags) then
      payload.bytes.toOption.toList
    else []
  | _, _ => []

/-- How many payloads waited for a session when a step removed it. -/
def abandoned (s : Stage) : Nat :=
  match s.outcome.step, s.outcome.answer with
  | .remove tag, .ok _ =>
    ((s.rig.device.registry.find? tag).map (s.rig.modem.queued ·.channel)).getD 0
  | _, _ => 0

end Stage

/-! ### A step that fails -/

section

variable (index : Nat) (step : Step) (failure : StepFailure)

@[simp] theorem Outcome.isDelivery_error :
    (⟨index, step, .error failure⟩ : Outcome).isDelivery = false := by
  cases step <;> rfl

@[simp] theorem Outcome.isSent_error :
    (⟨index, step, .error failure⟩ : Outcome).isSent = false := by
  cases step <;> rfl

@[simp] theorem Outcome.completed_error :
    (⟨index, step, .error failure⟩ : Outcome).completed = [] := by
  cases step <;> rfl

@[simp] theorem Stage.received_error (rig : Rig) :
    (⟨rig, index, step, .error failure⟩ : Stage).received = [] := by
  cases step <;> rfl

@[simp] theorem Stage.abandoned_error (rig : Rig) :
    (⟨rig, index, step, .error failure⟩ : Stage).abandoned = 0 := by
  cases step <;> rfl

end

namespace Rig

variable {rig : Rig} {memory : Memory} {step : Step} {tag : Tag}

/-- The stages of a run, of whose steps the first is number `index`. -/
def stages (memory : Memory) (index : Nat) : List Step → Rig → List Stage
  | [], _ => []
  | step :: steps, rig =>
    ⟨rig, ⟨index, step, (rig.perform memory step).1⟩⟩ ::
      stages memory (index + 1) steps (rig.perform memory step).2

theorem map_outcome_stages (memory : Memory) (index : Nat) (steps : List Step) (rig : Rig) :
    (rig.stages memory index steps).map (·.outcome) = (rig.performAll memory index steps).1 := by
  induction steps generalizing rig index with
  | nil => rfl
  | cons step steps ih => simp only [stages, performAll, List.map_cons, ih]

/-- A step is taken on the rig that the steps before it have left. -/
theorem rig_of_getElem?_stages {index i : Nat} {steps : List Step} {stage : Stage}
    (h : (rig.stages memory index steps)[i]? = some stage) :
    stage.rig = (rig.performAll memory index (steps.take i)).2 := by
  induction steps generalizing rig index i with
  | nil => cases h
  | cons step steps ih =>
    cases i with
    | zero =>
      cases h
      rfl
    | succ i => exact ih h

/-! ## The host -/

theorem host_drain (channel : ChannelId) (rig : Rig) : (rig.drain channel).2.host = rig.host :=
  host_heed _ _

theorem host_countEach (id : SessionId) (payloads : List Bytes) (rig : Rig) :
    (rig.countEach id payloads).2.host = rig.host :=
  countEach_induction (P := fun rig' ↦ rig'.host = rig.host)
    (fun rig' bytes h ↦ by
      rw [host_act_device, host_operate (by simp)]
      exact h) payloads rfl

/-- Only a step that hands up concerns the host. -/
theorem host_perform (hreceive : ∀ id payload control, step ≠ .receive id payload control)
    (hsound : rig.device.registry.Sound) : (rig.perform memory step).2.host = rig.host := by
  cases hoperation : rig.operation? memory step with
  | some operation =>
    rw [snd_perform_of_some hoperation, host_act_device, host_operate]
    · rfl
    · rintro id buffer control rfl
      cases step with
      | receive id payload control => exact hreceive id payload control rfl
      | transmit tag payload inBand =>
        rw [operation?] at hoperation
        cases hbytes : payload.bytes <;> rw [hbytes] at hoperation <;> cases hoperation
      | _ => cases hoperation
  | none =>
    by_cases hdrain : ∃ tag, step = .drain tag
    · obtain ⟨tag, rfl⟩ := hdrain
      rw [perform, snd_conclude]
      by_cases hlive : tag ∈ rig.device.registry.tags
      · obtain ⟨s, id, -, -, -, hcomplete⟩ := exists_complete hsound hlive
        rw [hcomplete]
        exact (host_countEach id _ _).trans (host_drain s.channel rig)
      · rw [complete_of_notMem hlive]
    · obtain ⟨fault, hperform⟩ := perform_of_none hoperation fun tag htag ↦ hdrain ⟨tag, htag⟩
      rw [hperform]

/-- A payload that is handed up is counted if its session is live, and reaches the host. -/
theorem exists_of_receive {id : SessionId} {payload : PayloadSource} {control : Bool}
    {result : StepResult} (h : (rig.perform memory (.receive id payload control)).1 = .ok result) :
    ∃ (data : Bytes) (tag : Tag) (frame : Frame),
      payload.bytes = .ok data ∧ Tag.ofSession? id = some tag ∧
      (rig.perform memory (.receive id payload control)).2 = { rig with device := { rig.device with
        registry := (rig.device.registry.count tag (UInt64.ofNat data.length) .downlink).2
        peers := { rig.device.peers with host := (rig.host.deliver frame).2 } } } := by
  simp only [perform] at h ⊢
  cases hbytes : payload.bytes with
  | error fault =>
    rw [hbytes] at h
    cases h
  | ok data =>
    rw [hbytes] at h
    have hreceives := Device.receives_receive id (inbound data) control rig.device
    simp only [apply] at h ⊢
    generalize rig.device.receive id (inbound data) control = answer at h hreceives
    cases hreceives with
    | refused => cases h
    | @received tag _ hid =>
      have hlength : (inbound data).length - Frame.plainHeader = data.length := by
        simp [inbound]
      rw [hlength]
      exact ⟨data, tag, _, rfl, hid, rfl⟩

/-- A host without a limit keeps each frame that it gets. -/
theorem pending_perform (hsound : rig.device.registry.Sound) (hlimit : rig.host.limit = none)
    {answer : Except StepFailure StepResult} (h : (rig.perform memory step).1 = answer)
    (index : Nat) :
    (rig.perform memory step).2.host.limit = none ∧ (rig.perform memory step).2.host.pending =
      rig.host.pending + if (⟨index, step, answer⟩ : Outcome).isDelivery then 1 else 0 := by
  cases answer with
  | error failure =>
    rw [perform_eq_of_error hsound h, Outcome.isDelivery_error]
    exact ⟨hlimit, rfl⟩
  | ok result =>
    by_cases hreceive : ∃ id payload control, step = .receive id payload control
    · obtain ⟨id, payload, control, rfl⟩ := hreceive
      obtain ⟨data, tag, frame, -, -, hrig⟩ := exists_of_receive h
      have hfull : rig.host.isFull = false := by rw [Collector.isFull, hlimit]; rfl
      have hhost : (rig.perform memory (.receive id payload control)).2.host =
          { rig.host with frames := rig.host.frames ++ [frame] } := by
        rw [hrig, host, Collector.deliver, hfull]
        rfl
      rw [hhost]
      exact ⟨hlimit, List.length_append⟩
    · have hhost : (rig.perform memory step).2.host = rig.host :=
        host_perform (fun id payload control h ↦ hreceive ⟨id, payload, control, h⟩) hsound
      have hnone : (⟨index, step, .ok result⟩ : Outcome).isDelivery = false := by
        cases step with
        | receive id payload control => exact absurd ⟨id, payload, control, rfl⟩ hreceive
        | _ => rfl
      rw [hhost, hnone]
      exact ⟨hlimit, rfl⟩

/-! ## The counters of the device -/

/-- Signals count nothing. -/
theorem totals_heed (signals : List Signal) (rig : Rig) :
    (rig.heed signals).device.registry.totals = rig.device.registry.totals := by
  rw [registry_heed]
  split
  · exact (Registry.evolves_heedAll signals _).totals_eq
  · rfl

theorem totals_act_device {operation : Device.Operation}
    (h : Device.Step.counted (.operate operation) rig.device = []) :
    (rig.act (.device operation)).2.device.registry.totals = rig.device.registry.totals := by
  have htotals := (Device.evolves_operate operation rig.device).totals_eq
  rw [h] at htotals
  exact (totals_heed _ _).trans htotals

theorem totals_countEach {id : SessionId} (hid : Tag.ofSession? id = some tag)
    (hlive : tag ∈ rig.device.registry.tags) (payloads : List Bytes) :
    (rig.countEach id payloads).2.device.registry.totals =
      rig.device.registry.totals + .ofPayloads payloads [] := by
  induction payloads generalizing rig with
  | nil => exact (Counters.add_zero _).symm
  | cons payload payloads ih =>
    have hnext : (rig.device.registry.count tag (UInt64.ofNat payload.length) .uplink).2.tags =
        rig.device.registry.tags :=
      Registry.tags_of_bindings_eq Registry.bindings_count
    simp only [countEach, apply, Device.updateStats_of_mem hid hlive]
    rw [ih (hnext ▸ hlive), Registry.count_of_mem hlive]
    simp only [Counters.record_uplink, Counters.add_assoc]
    rw [← Counters.ofPayloads_append]
    rfl

/-- A drain that succeeds is one for a live session. -/
theorem exists_of_drain (hsound : rig.device.registry.Sound) {result : StepResult}
    (h : (rig.perform memory (.drain tag)).1 = .ok result) :
    ∃ (s : Session) (id : SessionId), rig.device.registry.find? tag = some s ∧
      Tag.ofSession? id = some tag ∧ result = .completed (rig.drain s.channel).1 ∧
      (rig.perform memory (.drain tag)).2 =
        ((rig.drain s.channel).2.countEach id (rig.drain s.channel).1).2 := by
  by_cases hlive : tag ∈ rig.device.registry.tags
  · obtain ⟨s, id, hs, hid, -, hcomplete⟩ := exists_complete hsound hlive
    rw [perform, hcomplete] at h ⊢
    cases h
    exact ⟨s, id, hs, hid, rfl, rfl⟩
  · rw [perform, complete_of_notMem hlive] at h
    cases h

/-- A transmission that does not fail is one of a payload that makes sense. -/
theorem exists_of_transmit {payload : PayloadSource} {inBand : Bool} {result : StepResult}
    (h : (rig.perform memory (.transmit tag payload inBand)).1 = .ok result) :
    ∃ (data : Bytes) (status : TxStatus),
      let frame := rig.outbound tag inBand data
      rig.operation? memory (.transmit tag payload inBand) = some (.transmit memory frame) ∧
      result = .transmitted status ∧ (rig.device.transmit memory frame).1 = .ok status := by
  cases hbytes : payload.bytes with
  | error fault =>
    simp only [perform, hbytes] at h
    cases h
  | ok data =>
    simp only [perform, hbytes, transmit] at h
    cases hstatus : (rig.device.transmit memory (rig.outbound tag inBand data)).1 with
    | error e =>
      rw [hstatus] at h
      cases h
    | ok status =>
      rw [hstatus] at h
      cases h
      exact ⟨data, status, by rw [operation?, hbytes]; rfl, rfl, hstatus⟩

/-- A drain fails only if there is no session, and counts all that it takes. -/
theorem drain_fails_iff (hsound : rig.device.registry.Sound) (memory : Memory) (tag : Tag) :
    ((∃ failure, (rig.perform memory (.drain tag)).1 = .error failure) ↔
      tag ∉ rig.device.registry.tags) ∧
    (tag ∈ rig.device.registry.tags → ∃ (s : Session) (id : SessionId),
      rig.device.registry.find? tag = some s ∧ Tag.ofSession? id = some tag ∧
      let drained := rig.drain s.channel
      (drained.2.countEach id drained.1).1 = .ok () ∧
      (rig.perform memory (.drain tag)).1 = .ok (.completed drained.1)) := by
  refine ⟨⟨?_, ?_⟩, ?_⟩
  · rintro ⟨failure, hfail⟩ hlive
    obtain ⟨s, id, -, -, -, hcomplete⟩ := exists_complete hsound hlive
    rw [perform, hcomplete] at hfail
    cases hfail
  · intro hnew
    exact ⟨.refused (.unknownSession tag), by rw [perform, complete_of_notMem hnew]; rfl⟩
  · intro hlive
    obtain ⟨s, id, hs, hid, hcount, hcomplete⟩ := exists_complete hsound hlive
    exact ⟨s, id, hs, hid, hcount, by rw [perform, hcomplete]; rfl⟩

theorem totals_perform (hsound : rig.device.registry.Sound)
    {answer : Except StepFailure StepResult} (h : (rig.perform memory step).1 = answer)
    (index : Nat) :
    (rig.perform memory step).2.device.registry.totals =
      rig.device.registry.totals + .ofPayloads (⟨index, step, answer⟩ : Outcome).completed
        (⟨rig, index, step, answer⟩ : Stage).received := by
  cases answer with
  | error failure =>
    rw [perform_eq_of_error hsound h, Outcome.completed_error, Stage.received_error]
    exact (Counters.add_zero _).symm
  | ok result =>
    cases step with
    | receive id payload control =>
      obtain ⟨data, tag, frame, hbytes, hid, hrig⟩ := exists_of_receive h
      rw [hrig]
      by_cases hlive : tag ∈ rig.device.registry.tags
      · have hreceived : (⟨rig, index, .receive id payload control, .ok result⟩ : Stage).received =
            [data] := by
          simp [Stage.received, hid, hlive, hbytes, Except.toOption]
        rw [hreceived, Registry.count_of_mem hlive]
        exact Counters.record_downlink data _
      · have hreceived : (⟨rig, index, .receive id payload control, .ok result⟩ : Stage).received =
            [] := by
          simp [Stage.received, hid, hlive]
        rw [hreceived, Registry.count_of_notMem hlive]
        exact (Counters.add_zero _).symm
    | drain tag =>
      obtain ⟨s, id, hs, hid, rfl, hrig⟩ := exists_of_drain hsound h
      have hlive : tag ∈ (rig.drain s.channel).2.device.registry.tags := by
        rw [tags_drain]
        exact Registry.mem_tags_iff.2 ⟨s, Registry.mem_of_find? hs, Registry.tag_of_find? hs⟩
      rw [hrig, totals_countEach hid hlive]
      exact congrArg (· + _) (totals_heed _ _)
    | transmit tag payload inBand =>
      obtain ⟨data, status, hoperation, -, -⟩ := exists_of_transmit h
      rw [snd_perform_of_some hoperation, totals_act_device rfl]
      exact (Counters.add_zero _).symm
    | _ =>
      rw [snd_perform_of_some rfl, totals_act_device rfl]
      exact (Counters.add_zero _).symm

/-! ## What waits -/

theorem modem_drain (channel : ChannelId) (rig : Rig) :
    (rig.drain channel).2.modem = (rig.modem.drain channel).2.2 :=
  modem_heed _ _

theorem modem_countEach (id : SessionId) (payloads : List Bytes) (rig : Rig) :
    (rig.countEach id payloads).2.modem = rig.modem :=
  countEach_induction (P := fun rig' ↦ rig'.modem = rig.modem)
    (fun rig' bytes h ↦ by
      rw [modem_act_device, (operate_of_isQuiet rfl).1]
      exact h) payloads rfl

/-- A frame that is sent leaves one more payload waiting. -/
theorem waiting_transmit {d : Device Testbed} (hsound : d.peers.modem.Sound) {memory : Memory}
    {frame : Frame} {status : TxStatus} (h : (d.transmit memory frame).1 = .ok status) :
    (d.transmit memory frame).2.2.peers.modem.waiting =
      d.peers.modem.waiting + if status = .sent then 1 else 0 := by
  have htransmits := Device.transmits_transmit memory frame d
  generalize d.transmit memory frame = outcome at h htransmits
  cases htransmits with
  | discarded =>
    cases h
    rfl
  | refused => cases h
  | @submitted _ cut _ answer _ _ _ _ _ _ _ hsubmit =>
    rw [(Testbed.submits hsubmit).waiting_eq hsound]
    match answer, h with
    | .ok .accepted, h =>
      cases h
      rfl
    | .ok (.retry payload), h =>
      simp only [Routed.settle] at h
      split at h <;> cases h
      rfl
    | .error e, h => cases h

/-- A step that queues, completes or abandons payloads accounts for all that were waiting. -/
theorem waiting_perform (hlinked : Linked [] rig.device.registry rig.modem)
    {answer : Except StepFailure StepResult} (h : (rig.perform memory step).1 = answer)
    (index : Nat) :
    (rig.perform memory step).2.modem.waiting +
        (⟨index, step, answer⟩ : Outcome).completed.length +
        (⟨rig, index, step, answer⟩ : Stage).abandoned =
      rig.modem.waiting + if (⟨index, step, answer⟩ : Outcome).isSent then 1 else 0 := by
  cases answer with
  | error failure =>
    rw [perform_eq_of_error hlinked.table h, Outcome.completed_error, Stage.abandoned_error,
      Outcome.isSent_error]
    rfl
  | ok result =>
    cases step with
    | add tag =>
      rw [snd_perform_of_some rfl, modem_act_device]
      have hadds := Testbed.adds_add tag rig.device.registry rig.device.peers
      simp only [Device.operate, Device.addSession]
      generalize rig.device.registry.add tag rig.device.peers = outcome at hadds
      cases hadds with
      | rejected hmodem => exact congrArg Loopback.waiting hmodem
      | added hopens => exact hopens.waiting_eq
    | remove tag =>
      have hremoves := Testbed.removes_remove tag rig.device.registry rig.device.peers
      simp only [perform, apply, Device.removeSession] at h ⊢
      generalize rig.device.registry.remove tag rig.device.peers = outcome at h hremoves
      cases hremoves with
      | rejected => cases h
      | @removed s _ hs hcloses =>
        have habandoned : (⟨rig, index, .remove tag, .ok result⟩ : Stage).abandoned =
            rig.modem.queued s.channel := by
          simp only [Stage.abandoned, hs]
          rfl
        rw [habandoned]
        exact hcloses.waiting_add hlinked.store
    | transmit tag payload inBand =>
      obtain ⟨data, status, hoperation, rfl, hstatus⟩ := exists_of_transmit h
      rw [snd_perform_of_some hoperation, modem_act_device]
      have hsent : (⟨index, .transmit tag payload inBand, .ok (.transmitted status)⟩ :
          Outcome).isSent = decide (status = .sent) := by
        cases status <;> rfl
      simp only [hsent, decide_eq_true_eq]
      exact waiting_transmit hlinked.store hstatus
    | drain tag =>
      obtain ⟨s, id, -, -, rfl, hrig⟩ := exists_of_drain hlinked.table h
      rw [hrig, modem_countEach, modem_drain]
      exact congrArg (· + 0) (Loopback.waiting_drain hlinked.store s.channel)
    | receive id payload control =>
      obtain ⟨data, tag, frame, -, -, hrig⟩ := exists_of_receive h
      rw [hrig]
      rfl
    | flowControl id engage =>
      rw [snd_perform_of_some rfl, modem_act_device]
      rfl
    | _ =>
      rw [snd_perform_of_some rfl, modem_act_device, (operate_of_isQuiet rfl).1]
      rfl

/-! ## Runs -/

theorem linked_perform (h : Linked [] rig.device.registry rig.modem) (memory : Memory)
    (step : Step) :
    Linked [] (rig.perform memory step).2.device.registry (rig.perform memory step).2.modem :=
  perform_induction (P := fun rig ↦ Linked [] rig.device.registry rig.modem)
    (fun _ _ hloyal h ↦ h.act hloyal) step h

/-- A scenario steals no channel, so that none is ever missing. -/
theorem linked_performAll (h : Linked [] rig.device.registry rig.modem) (memory : Memory)
    (index : Nat) (steps : List Step) :
    let rig' := (rig.performAll memory index steps).2
    Linked [] rig'.device.registry rig'.modem :=
  performAll_induction (P := fun rig ↦ Linked [] rig.device.registry rig.modem)
    (fun _ _ hloyal h ↦ h.act hloyal) index steps h

/-- What the host holds at the end is what the steps delivered to it. -/
theorem pending_performAll (hsound : rig.device.registry.Sound) (hlimit : rig.host.limit = none)
    (memory : Memory) (index : Nat) (steps : List Step) :
    (rig.performAll memory index steps).2.host.pending =
      rig.host.pending + (rig.performAll memory index steps).1.countP (·.isDelivery) := by
  induction steps generalizing rig index with
  | nil => rfl
  | cons step steps ih =>
    obtain ⟨hnext, hfirst⟩ :=
      pending_perform hsound hlimit (rfl : (rig.perform memory step).1 = _) index
    have hrest := ih (sound_perform hsound memory step) hnext (index + 1)
    rw [hfirst] at hrest
    simp only [performAll, List.countP_cons, hrest]
    omega

/-- What was counted at the end is what the steps completed and received. -/
theorem totals_performAll (hsound : rig.device.registry.Sound) (memory : Memory) (index : Nat)
    (steps : List Step) :
    (rig.performAll memory index steps).2.device.registry.totals = rig.device.registry.totals +
      .ofPayloads ((rig.performAll memory index steps).1.flatMap (·.completed))
        ((rig.stages memory index steps).flatMap (·.received)) := by
  induction steps generalizing rig index with
  | nil => exact (Counters.add_zero _).symm
  | cons step steps ih =>
    have hfirst := totals_perform hsound (rfl : (rig.perform memory step).1 = _) index
    have hrest := ih (sound_perform hsound memory step) (index + 1)
    simp only [performAll, stages, List.flatMap_cons, hrest, hfirst, Counters.ofPayloads_append,
      Counters.add_assoc]

theorem waiting_performAll (hlinked : Linked [] rig.device.registry rig.modem) (memory : Memory)
    (index : Nat) (steps : List Step) :
    (rig.performAll memory index steps).2.modem.waiting +
        ((rig.performAll memory index steps).1.flatMap (·.completed)).length +
        ((rig.stages memory index steps).map (·.abandoned)).sum =
      rig.modem.waiting + (rig.performAll memory index steps).1.countP (·.isSent) := by
  induction steps generalizing rig index with
  | nil => rfl
  | cons step steps ih =>
    have hfirst := waiting_perform hlinked (rfl : (rig.perform memory step).1 = _) index
    have hrest := ih (linked_perform hlinked memory step) (index + 1)
    simp only [performAll, stages, List.flatMap_cons, List.length_append, List.map_cons,
      List.sum_cons, List.countP_cons]
    omega

end Rig

/-- Where each session has its channel, what waits on channels waits on those of the sessions. -/
theorem Linked.waiting_eq {r : Registry} {l : Loopback} (h : Linked [] r l) :
    l.waiting = (r.sessions.map fun s ↦ l.queued s.channel).sum := by
  have hperm : (l.openChannels.map fun c ↦ l.queued c.2).Perm
      (r.bindings.map fun c ↦ l.queued c.2) := by
    have hpairs := h.perm.map fun c ↦ l.queued c.2
    rwa [List.append_nil] at hpairs
  have hqueued : l.channels.map (·.queue.length) = l.openChannels.map fun c ↦ l.queued c.2 := by
    rw [Loopback.openChannels, List.map_map]
    refine List.map_congr_left fun c hc ↦ ?_
    exact (Loopback.queued_of_channel? (h.store.channel?_eq_some_iff.2 ⟨hc, rfl⟩)).symm
  rw [Loopback.waiting, hqueued, hperm.sum_eq, Registry.bindings, List.map_map]
  rfl

namespace Scenario

variable {s : Scenario} {octets : Mac} {device : Device Testbed}

/-- A run starts with nothing open, nothing waiting and nothing counted, and the host keeps all. -/
theorem exists_start
    (hinit : Device.init s.config octets.toLocal ⟨{ config := s.loopback }, {}⟩ = .ok device) :
    ∃ rig, s.start octets.toLocal = .ok rig ∧ Linked [] rig.device.registry rig.modem ∧
      rig.host.limit = none ∧ rig.host.pending = 0 ∧ rig.device.registry.totals = .zero ∧
      rig.modem.waiting = 0 := by
  have hfresh : Rig.IsFresh ⟨device, true⟩ := Rig.isFresh_of_init hinit rfl true
  have hinits := Device.inits_init s.config octets.toLocal
    (⟨{ config := s.loopback }, {}⟩ : Testbed)
  have htotals : device.registry.totals = .zero := by rw [Device.registry_of_init hinit]; rfl
  have hchannels : device.peers.modem.channels = [] := hfresh.channels
  have hwaiting : device.peers.modem.waiting = 0 := by rw [Loopback.waiting, hchannels]; rfl
  obtain ⟨hlimit, hframes⟩ : device.peers.host.limit = none ∧ device.peers.host.frames = [] := by
    rw [hinit] at hinits
    cases hinits with
    | attached _ _ hattach =>
      cases hattach
      exact ⟨rfl, rfl⟩
  exact ⟨_, start_eq_ok (Mac.isValidUnicast_toLocal octets) hinit, hfresh.linked, hlimit,
    congrArg List.length hframes, htotals, hwaiting⟩

/-- The report on a scenario whose device can be set up adds up, whatever memory its transmissions
meet. The host has a frame for each payload that was handed up. The device has counted, up to a
multiple of `2 ^ 64`, the payloads that were handed up while their sessions were live, and those
that were drained. Of the frames that were sent the payload was drained, or it waits on the channel
of a live session at the end, or it waited on that of a session when the session was removed. At any
time a drain fails if and only if the session is not live, and none fails when it has taken the
payloads: all that it takes is counted. -/
theorem run_accounts (memory : Memory)
    (hinit : Device.init s.config octets.toLocal ⟨{ config := s.loopback }, {}⟩ = .ok device) :
    ∃ (rig : Rig) (report : SimulationReport),
      s.start octets.toLocal = .ok rig ∧ s.run memory octets.toLocal = .ok report ∧
      let stages := rig.stages memory 0 s.steps
      let modem := (rig.performAll memory 0 s.steps).2.modem
      let received := stages.flatMap (·.received)
      let completed := report.outcomes.flatMap (·.completed)
      stages.map (·.outcome) = report.outcomes ∧
      (∀ (i : Nat) (stage : Stage), stages[i]? = some stage →
        stage.rig = (rig.performAll memory 0 (s.steps.take i)).2) ∧
      report.delivered = report.outcomes.countP (·.isDelivery) ∧
      report.device.totals.rxPackets.toNat = received.length % 2 ^ 64 ∧
      report.device.totals.rxBytes.toNat = (received.map List.length).sum % 2 ^ 64 ∧
      report.device.totals.txPackets.toNat = completed.length % 2 ^ 64 ∧
      report.device.totals.txBytes.toNat = (completed.map List.length).sum % 2 ^ 64 ∧
      report.outcomes.countP (·.isSent) = completed.length +
        (report.sessions.map fun session ↦ modem.queued session.channel).sum +
        (stages.map (·.abandoned)).sum ∧
      ∀ before tag,
        let rig' := (rig.performAll memory 0 before).2
        ((∃ failure, (rig'.perform memory (.drain tag)).1 = .error failure) ↔
          tag ∉ rig'.device.registry.tags) ∧
        (tag ∈ rig'.device.registry.tags → ∃ (session : Session) (id : SessionId),
          rig'.device.registry.find? tag = some session ∧ Tag.ofSession? id = some tag ∧
          let drained := rig'.drain session.channel
          (drained.2.countEach id drained.1).1 = .ok () ∧
          (rig'.perform memory (.drain tag)).1 = .ok (.completed drained.1)) := by
  obtain ⟨rig, hstart, hlinked, hlimit, hpending, htotals, hwaiting⟩ := exists_start hinit
  have hsound := hlinked.table
  have hdelivered := Rig.pending_performAll hsound hlimit memory 0 s.steps
  have hcounted := Rig.totals_performAll hsound memory 0 s.steps
  have hqueued := Rig.waiting_performAll hlinked memory 0 s.steps
  rw [hpending, Nat.zero_add] at hdelivered
  rw [htotals, Counters.zero_add] at hcounted
  rw [hwaiting, Nat.zero_add, (Rig.linked_performAll hlinked memory 0 s.steps).waiting_eq]
    at hqueued
  refine ⟨rig, _, hstart, run_of_start hstart memory, Rig.map_outcome_stages memory 0 s.steps rig,
    fun i stage ↦ Rig.rig_of_getElem?_stages, hdelivered, ?_, ?_, ?_, ?_, ?_, fun before tag ↦ ?_⟩
  · exact (congrArg (·.rxPackets.toNat) hcounted).trans UInt64.toNat_ofNat'
  · exact (congrArg (·.rxBytes.toNat) hcounted).trans UInt64.toNat_ofNat'
  · exact (congrArg (·.txPackets.toNat) hcounted).trans UInt64.toNat_ofNat'
  · exact (congrArg (·.txBytes.toNat) hcounted).trans UInt64.toNat_ofNat'
  · exact hqueued.symm.trans (congrArg (· + _) (Nat.add_comm _ _))
  · exact Rig.drain_fails_iff (Rig.sound_performAll hsound memory 0 before) memory tag

/-- Of four frames two are drained, one is lost with its session and one waits, and of two payloads
one is for a session that never came. -/
def errands : Scenario where
  steps := [.add 1, .transmit 1 (.text "E") false, .transmit 1 (.text "EE") true, .drain 1,
    .receive 0 (.text "E") false, .receive 7 (.text "E") true, .transmit 1 (.text "E") false,
    .remove 1, .drain 1, .add 2, .transmit 2 (.text "E") false]

theorem run_errands :
    (∃ device, Device.init errands.config Mac.zero.toLocal
      (⟨{ config := errands.loopback }, {}⟩ : Testbed) = .ok device) ∧
    ∃ report, errands.run .ample Mac.zero.toLocal = .ok report ∧ report.delivered = 2 ∧
      report.device.totals.txPackets.toNat = 2 ∧ report.device.totals.txBytes.toNat = 3 ∧
      report.outcomes.countP (·.isSent) = 4 := by
  obtain ⟨device, hinit⟩ : ∃ device, Device.init errands.config Mac.zero.toLocal
      (⟨{ config := errands.loopback }, {}⟩ : Testbed) = .ok device := ⟨_, rfl⟩
  obtain ⟨rig, report, -, hrun, -, -, hdelivered, -, -, hpackets, hbytes, -, -⟩ :=
    run_accounts .ample hinit
  obtain ⟨r, hr, hdeliveries, hsent, hcompleted⟩ : ∃ r,
      errands.run .ample Mac.zero.toLocal = .ok r ∧
      r.outcomes.countP (·.isDelivery) = 2 ∧ r.outcomes.countP (·.isSent) = 4 ∧
      r.outcomes.flatMap (·.completed) = [[0x45], [0x45, 0x45]] :=
    ⟨_, rfl, by decide, by decide, by decide⟩
  obtain rfl : r = report := Except.ok.inj (hr.symm.trans hrun)
  rw [hdeliveries] at hdelivered
  rw [hcompleted] at hpackets hbytes
  exact ⟨⟨device, hinit⟩, r, hrun, hdelivered, hpackets, hbytes, hsent⟩

end Scenario

end ModemMux
