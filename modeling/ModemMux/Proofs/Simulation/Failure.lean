import ModemMux.Proofs.Device.Inbound
import ModemMux.Proofs.Device.Life
import ModemMux.Proofs.Rig.Links
import ModemMux.Simulation

/-!
# Steps that fail

A step of a scenario fails on many ways, in the device, in the table, in the modem or before any of
them is asked, and on each the rig is left as it was (`Rig.perform_eq_of_error`). A drain takes
payloads off a channel before it counts them, but what it counts it counts for a live session, and
so it does not fail halfway (`Rig.countEach_eq_ok`). So the steps of a run that fail can be struck
out: the others do what they did (`Rig.performAll_kept`), and `Scenario.run_kept` draws the
consequence for reports.
-/

namespace ModemMux

variable {η : Type} {e : MuxError}

/-! ## The device -/

/-- A request that no session obeys changes nothing. -/
theorem Registry.eq_of_request_error {r : Registry} {tag : Tag} {engage : Bool}
    (h : (r.request tag engage).1 = .error e) : (r.request tag engage).2 = r := by
  unfold request at h ⊢
  split
  · rfl
  next s hs =>
    simp only [hs] at h
    split at h
    next hunbound => rw [if_pos hunbound]
    · cases h

/-- A signal that nobody can follow changes nothing. -/
theorem Registry.eq_of_heed_error {r : Registry} {signal : Signal}
    (h : (r.heed signal).1 = .error e) : (r.heed signal).2 = r := by
  unfold heed at h ⊢
  split
  · rfl
  next tag htag =>
    simp only [htag] at h
    exact eq_of_request_error h

namespace Device

variable {d : Device (Testbed η)}

/-- A session that is not added leaves no trace. -/
theorem eq_of_addSession_error {tag : Tag} (h : (d.addSession tag).1 = .error e) :
    (d.addSession tag).2 = d := by
  have hadds := Registry.adds_add tag d.registry d.peers
  simp only [addSession] at h ⊢
  generalize d.registry.add tag d.peers = outcome at h hadds
  cases hadds with
  | invalidTag | sessionExists | full => rfl
  | refused _ _ _ hopen => rw [Testbed.eq_of_openChannel_error hopen]
  | unusable _ _ _ hopen hvalid =>
    rw [(Testbed.opens hopen).isValid] at hvalid
    cases hvalid
  | added => cases h

/-- A session that is not removed is left as it is. -/
theorem eq_of_removeSession_error {tag : Tag} (h : (d.removeSession tag).1 = .error e) :
    (d.removeSession tag).2 = d := by
  have hremoves := Registry.removes_remove tag d.registry d.peers
  simp only [removeSession] at h ⊢
  generalize d.registry.remove tag d.peers = outcome at h hremoves
  cases hremoves with
  | unknown | unusable => rfl
  | refused _ _ hclose => rw [Testbed.eq_of_closeChannel_error hclose]
  | removed => cases h

/-- A frame that comes to nothing leaves nothing behind, also where there is no memory to give it
back: a channel that hands a payload back has not changed. -/
theorem eq_of_transmit_error {memory : Memory} {frame : Frame}
    (h : (d.transmit memory frame).1 = .error e) :
    (d.transmit memory frame).2 = ([], d) := by
  have htransmits := transmits_transmit memory frame d
  generalize d.transmit memory frame = outcome at h htransmits
  cases htransmits with
  | discarded => cases h
  | refused => rfl
  | @submitted _ cut _ answer _ _ _ _ _ _ _ hsubmit =>
    match answer, h, hsubmit with
    | .ok .accepted, h, _ => cases h
    | .ok (.retry _), _, hsubmit =>
      obtain ⟨-, rfl, rfl⟩ := Testbed.submit_retry hsubmit
      rfl
    | .error _, _, hsubmit =>
      obtain ⟨rfl, rfl⟩ := Testbed.eq_of_submit_error hsubmit
      rfl

variable {ω : Type} {d : Device ω}

/-- A frame that is refused leaves no trace. -/
theorem eq_of_receive_error [HostStack ω] {id : SessionId} {buffer : Bytes} {control : Bool}
    (h : (d.receive id buffer control).1 = .error e) : (d.receive id buffer control).2 = d := by
  have hreceives := receives_receive id buffer control d
  generalize d.receive id buffer control = outcome at h hreceives
  cases hreceives with
  | refused => rfl
  | received => cases h

theorem eq_of_setFlowControl_error {id : SessionId} {engage : Bool}
    (h : (d.setFlowControl id engage).1 = .error e) : (d.setFlowControl id engage).2 = d := by
  have hregistry : (d.registry.heed ⟨id, engage⟩).2 = d.registry := Registry.eq_of_heed_error h
  simp only [setFlowControl, hregistry]

theorem eq_of_changeMtu_error {mtu : Nat} (h : (d.changeMtu mtu).1 = .error e) :
    (d.changeMtu mtu).2 = d := by
  unfold changeMtu at h ⊢
  split
  · rfl
  next hmtu =>
    rw [hmtu] at h
    cases h

theorem eq_of_openUp_error (h : d.openUp.1 = .error e) : d.openUp.2 = d := by
  unfold openUp at h ⊢
  split
  next hmac =>
    rw [if_pos hmac] at h
    cases h
  · rfl

theorem updateStats_of_mem {id : SessionId} {tag : Tag} (hid : Tag.ofSession? id = some tag)
    (hlive : tag ∈ d.registry.tags) (bytes : UInt64) (direction : Direction) :
    d.updateStats id bytes direction =
      (.ok (), { d with registry := (d.registry.count tag bytes direction).2 }) := by
  simp only [updateStats, hid, Registry.count_of_mem hlive]

end Device

namespace Rig

variable {rig : Rig} {memory : Memory} {failure : StepFailure}

/-! ## A drain that is counted -/

/-- Payloads of a live session are all counted. -/
theorem countEach_eq_ok {id : SessionId} {tag : Tag} (hid : Tag.ofSession? id = some tag)
    (hlive : tag ∈ rig.device.registry.tags) (payloads : List Bytes) :
    (rig.countEach id payloads).1 = .ok () := by
  induction payloads generalizing rig with
  | nil => rfl
  | cons payload payloads ih =>
    simp only [countEach, apply, Device.updateStats_of_mem hid hlive]
    apply ih
    simpa only [Registry.tags_of_bindings_eq Registry.bindings_count] using hlive

theorem tags_drain (rig : Rig η) (channel : ChannelId) :
    (rig.drain channel).2.device.registry.tags = rig.device.registry.tags := by
  have hregistry := registry_heed (rig.withModem (rig.modem.drain channel).2.2)
    (rig.modem.drain channel).2.1
  simp only [drain, hregistry]
  split
  · exact Registry.tags_of_bindings_eq (Registry.bindings_heedAll _)
  · rfl

/-- A session is drained, or there is none. -/
theorem eq_of_complete_error (hsound : rig.device.registry.Sound) {tag : Tag}
    (h : (rig.complete tag).1 = .error e) : (rig.complete tag).2 = rig := by
  unfold complete at h ⊢
  cases he : rig.device.registry.lookup tag with
  | none => rfl
  | some entry =>
    obtain ⟨hentry, htag⟩ := hsound.lookup_eq_some_iff.1 he
    have hmem := List.mem_of_getElem? hentry
    obtain ⟨id, hid, hsession⟩ := Tag.exists_toSession? (hsound.isSession _ hmem)
    rw [htag] at hid hsession
    have hlive : tag ∈ (rig.drain entry.session.channel).2.device.registry.tags := by
      rw [tags_drain, ← htag]
      exact Registry.mem_tags_of_mem hmem
    have hcount := countEach_eq_ok hsession hlive (rig.drain entry.session.channel).1
    simp only [he, hid] at h
    split at h
    next => cases h
    next hfail =>
      rw [hfail] at hcount
      cases hcount

/-! ## One step -/

theorem snd_conclude {α : Type} (result : α → StepResult) (answer : Except MuxError α × Rig) :
    (conclude result answer).2 = answer.2 := by
  rcases answer with ⟨_ | _, rig⟩ <;> rfl

theorem fst_conclude_error {α : Type} {result : α → StepResult} {answer : Except MuxError α × Rig}
    (h : (conclude result answer).1 = .error failure) : ∃ e, answer.1 = .error e := by
  rcases answer with ⟨e | a, rig⟩
  · exact ⟨e, rfl⟩
  · cases h

/-- An operation that leaves the device alone where it fails leaves the rig alone. -/
theorem eq_of_apply_error {α : Type} {result : α → StepResult}
    {operation : Device Testbed → Except MuxError α × Device Testbed}
    (hoperation : ∀ e, (operation rig.device).1 = .error e → (operation rig.device).2 = rig.device)
    (h : (conclude result (rig.apply operation)).1 = .error failure) :
    (conclude result (rig.apply operation)).2 = rig := by
  obtain ⟨e, he⟩ := fst_conclude_error h
  have hdevice := hoperation e he
  rw [snd_conclude]
  simp only [apply, hdevice]

/-- A step that fails leaves the rig as it was. -/
theorem perform_eq_of_error (hsound : rig.device.registry.Sound) {step : Step}
    (h : (rig.perform memory step).1 = .error failure) : (rig.perform memory step).2 = rig := by
  cases step with
  | add tag => exact eq_of_apply_error (fun _ ↦ Device.eq_of_addSession_error) h
  | remove tag => exact eq_of_apply_error (fun _ ↦ Device.eq_of_removeSession_error) h
  | transmit tag payload inBand =>
    simp only [perform] at h ⊢
    split at h
    next => rfl
    next data _ =>
      obtain ⟨e, he⟩ := fst_conclude_error h
      have htransmit := Device.eq_of_transmit_error he
      simp only [snd_conclude, transmit, htransmit]
      exact heed_nil rig
  | receive id payload control =>
    simp only [perform] at h ⊢
    split at h
    next => rfl
    next data _ => exact eq_of_apply_error (fun _ ↦ Device.eq_of_receive_error) h
  | flowControl id engage =>
    exact eq_of_apply_error (fun _ ↦ Device.eq_of_setFlowControl_error) h
  | drain tag =>
    obtain ⟨e, he⟩ := fst_conclude_error h
    simp only [perform, snd_conclude]
    exact eq_of_complete_error hsound he
  | mtu mtu => exact eq_of_apply_error (fun _ ↦ Device.eq_of_changeMtu_error) h
  | openUp => exact eq_of_apply_error (fun _ ↦ Device.eq_of_openUp_error) h
  | stop => cases h

/-! ## The table stays sound -/

theorem sound_heed (hsound : rig.device.registry.Sound) (signals : List Signal) :
    (rig.heed signals).device.registry.Sound := by
  rw [registry_heed]
  split
  · exact hsound.heedAll signals
  · exact hsound

theorem sound_countEach (hsound : rig.device.registry.Sound) (id : SessionId)
    (payloads : List Bytes) : (rig.countEach id payloads).2.device.registry.Sound := by
  induction payloads generalizing rig with
  | nil => exact hsound
  | cons payload payloads ih =>
    have hcount : (rig.apply (·.updateStats id (UInt64.ofNat payload.length)
        .uplink)).2.device.registry.Sound :=
      Device.sound_operate hsound (.updateStats id (UInt64.ofNat payload.length) .uplink)
    simp only [countEach]
    split
    next _ rig' hrig => exact (congrArg (·.2.device.registry) hrig) ▸ hcount
    next rig' hrig => exact ih ((congrArg (·.2.device.registry) hrig) ▸ hcount)

theorem sound_drain (hsound : rig.device.registry.Sound) (channel : ChannelId) :
    (rig.drain channel).2.device.registry.Sound := by
  have hmodem : (rig.withModem (rig.modem.drain channel).2.2).device.registry.Sound := hsound
  exact sound_heed hmodem (rig.modem.drain channel).2.1

theorem sound_complete (hsound : rig.device.registry.Sound) (tag : Tag) :
    (rig.complete tag).2.device.registry.Sound := by
  unfold complete
  split
  · exact hsound
  next entry _ =>
    have hdrain := sound_drain hsound entry.session.channel
    cases tag.toSession? with
    | none => exact hdrain
    | some id =>
      have hcount := sound_countEach hdrain id (rig.drain entry.session.channel).1
      simp only
      split
      next hrig => exact (congrArg (·.2.device.registry) hrig) ▸ hcount
      next hrig => exact (congrArg (·.2.device.registry) hrig) ▸ hcount

/-- No step makes the table unsound, whether it fails or not. -/
theorem sound_perform (hsound : rig.device.registry.Sound) (memory : Memory) (step : Step) :
    (rig.perform memory step).2.device.registry.Sound := by
  have hoperate := Device.sound_operate hsound
  cases step with
  | add tag =>
    simp only [perform, snd_conclude]
    exact hoperate (.addSession tag)
  | remove tag =>
    simp only [perform, snd_conclude]
    exact hoperate (.removeSession tag)
  | transmit tag payload inBand =>
    simp only [perform]
    split
    · exact hsound
    · rw [snd_conclude]
      exact sound_heed (hoperate (.transmit memory _)) _
  | receive id payload control =>
    simp only [perform]
    split
    · exact hsound
    next data _ =>
      rw [snd_conclude]
      exact hoperate (.receive id (inbound data) control)
  | flowControl id engage =>
    simp only [perform, snd_conclude]
    exact hoperate (.setFlowControl id engage)
  | drain tag =>
    simp only [perform, snd_conclude]
    exact sound_complete hsound tag
  | mtu mtu =>
    simp only [perform, snd_conclude]
    exact hoperate (.changeMtu mtu)
  | openUp =>
    simp only [perform, snd_conclude]
    exact hoperate .openUp
  | stop => exact hsound

/-! ## A run without the steps that fail -/

/-- Outcomes numbered anew, of which the first is number `index`. -/
def renumber (index : Nat) : List Outcome → List Outcome
  | [] => []
  | outcome :: outcomes => { outcome with index } :: renumber (index + 1) outcomes

/-- The steps that do not fail do without the others what they do among them. -/
theorem performAll_kept (hsound : rig.device.registry.Sound) (memory : Memory)
    (index index' : Nat) (steps : List Step) :
    let kept := (rig.performAll memory index steps).1.filter (·.isOk)
    rig.performAll memory index' (kept.map (·.step)) =
      (renumber index' kept, (rig.performAll memory index steps).2) := by
  induction steps generalizing rig index index' with
  | nil => rfl
  | cons step steps ih =>
    have hnext := sound_perform hsound memory step
    cases hanswer : (rig.perform memory step).1 with
    | error failure =>
      -- the step is not kept, and the rig is as it was
      have hsame := perform_eq_of_error hsound hanswer
      have hrest := ih hsound (index + 1) index'
      simpa only [performAll, hanswer, hsame, List.filter_cons, Outcome.isOk, Except.toBool,
        Bool.false_eq_true, if_false] using hrest
    | ok result =>
      have hrest := ih hnext (index + 1) (index' + 1)
      simp only [performAll, hanswer, List.filter_cons, Outcome.isOk, Except.toBool, if_true,
        List.map_cons, renumber] at hrest ⊢
      rw [hrest]

/-- Each step of a run has its outcome. -/
theorem map_step_performAll (memory : Memory) (index : Nat) (steps : List Step) (rig : Rig) :
    (rig.performAll memory index steps).1.map (·.step) = steps := by
  induction steps generalizing rig index with
  | nil => rfl
  | cons step steps ih => simp only [performAll, List.map_cons, ih]

theorem isOk_of_mem_renumber {outcomes : List Outcome} (h : ∀ o ∈ outcomes, o.isOk)
    (index : Nat) : ∀ o ∈ renumber index outcomes, o.isOk := by
  induction outcomes generalizing index with
  | nil => simp [renumber]
  | cons outcome outcomes ih =>
    obtain ⟨hfirst, hrest⟩ := List.forall_mem_cons.1 h
    exact List.forall_mem_cons.2 ⟨hfirst, ih hrest (index + 1)⟩

theorem sound_performAll (hsound : rig.device.registry.Sound) (memory : Memory) (index : Nat)
    (steps : List Step) :
    (rig.performAll memory index steps).2.device.registry.Sound := by
  induction steps generalizing rig index with
  | nil => exact hsound
  | cons step steps ih => exact ih (sound_perform hsound memory step) (index + 1)

end Rig

/-! ## Scenarios -/

namespace Scenario

variable {s : Scenario} {spare : Mac} {device : Device Testbed}

def withSteps (steps : List Step) (s : Scenario) : Scenario := { s with steps }

/-- A device that can be set up comes up. -/
theorem start_eq_ok (hspare : spare.isValidUnicast)
    (hinit : Device.init s.config spare ⟨{ config := s.loopback }, {}⟩ = .ok device) :
    s.start spare = .ok { device := { device with up := true } } := by
  have hmac := Device.isValidUnicast_of_init hinit hspare
  simp only [start, hinit, Device.openUp, if_pos hmac]

/-- A scenario whose device can be made is run to its end. -/
theorem run_of_start {rig : Rig} (h : s.start spare = .ok rig) (memory : Memory) :
    s.run memory spare =
      .ok (.ofRig (rig.performAll memory 0 s.steps).1 (rig.performAll memory 0 s.steps).2) := by
  simp only [run, h]

/-- Steps that fail have no effect. In the run of a scenario whose device can be set up, a step that
fails leaves the rig as it was, whatever came before it and whatever memory there is. So the
scenario that has only the other steps, with the same address to spare, runs as well: each of its
steps does what it did before, none fails, and in the end device, sessions and host are as they
were. -/
theorem run_kept (memory : Memory) (hspare : spare.isValidUnicast)
    (hinit : Device.init s.config spare ⟨{ config := s.loopback }, {}⟩ = .ok device) :
    ∃ (rig : Rig) (report report' : SimulationReport), s.start spare = .ok rig ∧
      (∀ before step failure,
        let rig' := (rig.performAll memory 0 before).2
        (rig'.perform memory step).1 = .error failure → (rig'.perform memory step).2 = rig') ∧
      s.run memory spare = .ok report ∧ report.outcomes.map (·.step) = s.steps ∧
      let kept := report.outcomes.filter (·.isOk)
      (s.withSteps (kept.map (·.step))).run memory spare = .ok report' ∧
      report'.outcomes = Rig.renumber 0 kept ∧ (∀ o ∈ report'.outcomes, o.isOk) ∧
      report'.failedSteps = 0 ∧ report'.device = report.device ∧
      report'.sessions = report.sessions ∧ report'.delivered = report.delivered := by
  have hstart := start_eq_ok hspare hinit
  generalize hrig : ({ device := { device with up := true } } : Rig) = rig at hstart
  have hsound : rig.device.registry.Sound := by
    have hregistry : rig.device.registry = device.registry := congrArg (·.device.registry) hrig.symm
    rw [hregistry, Device.registry_of_init hinit]
    exact Registry.sound_of_sessions_eq_nil rfl
  have hkept := Rig.performAll_kept hsound memory 0 0 s.steps
  have hok := Rig.isOk_of_mem_renumber
    (fun _ ho ↦ (List.mem_filter.1 ho).2 :
      ∀ o ∈ (rig.performAll memory 0 s.steps).1.filter (·.isOk), o.isOk) 0
  have hstart' : (s.withSteps (((rig.performAll memory 0 s.steps).1.filter (·.isOk)).map
      (·.step))).start spare = .ok rig := hstart
  have hrun' := run_of_start hstart' memory
  simp only [withSteps, hkept] at hrun'
  refine ⟨rig, _, _, hstart, ?_, run_of_start hstart memory,
    Rig.map_step_performAll memory 0 s.steps rig, hrun', rfl, hok, ?_, rfl, rfl, rfl⟩
  · intro before step failure
    exact Rig.perform_eq_of_error (Rig.sound_performAll hsound memory 0 before)
  · refine List.countP_eq_zero.2 fun o ho ↦ ?_
    simp [hok o ho]

/-- Of six steps three fail: a session comes twice, a payload is no hexadecimal number, and a
session that never came is removed. -/
def stumbling : Scenario where
  steps := [.add 1, .add 1, .transmit 1 (.hex "4") false, .transmit 1 (.text "E") true, .remove 7,
    .drain 1]

theorem run_stumbling :
    Mac.zero.toLocal.isValidUnicast ∧
    (∃ device, Device.init stumbling.config Mac.zero.toLocal
      (⟨{ config := stumbling.loopback }, {}⟩ : Testbed) = .ok device) ∧
    ∃ report, stumbling.run .ample Mac.zero.toLocal = .ok report ∧ report.failedSteps = 3 ∧
      ∃ report', (stumbling.withSteps [.add 1, .transmit 1 (.text "E") true, .drain 1]).run .ample
        Mac.zero.toLocal = .ok report' ∧ report'.failedSteps = 0 ∧
        report'.sessions = report.sessions := by
  have hspare : Mac.zero.toLocal.isValidUnicast := by decide
  obtain ⟨device, hinit⟩ : ∃ device, Device.init stumbling.config Mac.zero.toLocal
      (⟨{ config := stumbling.loopback }, {}⟩ : Testbed) = .ok device := ⟨_, rfl⟩
  obtain ⟨rig, report, report', -, -, hrun, -, hrun', -, -, hfailed, -, hsessions, -⟩ :=
    run_kept .ample hspare hinit
  obtain ⟨r, hr, hthree, hsteps⟩ : ∃ r, stumbling.run .ample Mac.zero.toLocal = .ok r ∧
      r.failedSteps = 3 ∧ (r.outcomes.filter (·.isOk)).map (·.step) =
        [.add 1, .transmit 1 (.text "E") true, .drain 1] := ⟨_, rfl, by decide, by decide⟩
  obtain rfl : r = report := Except.ok.inj (hr.symm.trans hrun)
  rw [hsteps] at hrun'
  exact ⟨hspare, ⟨device, hinit⟩, r, hrun, hthree, report', hrun', hfailed, hsessions⟩

end Scenario

end ModemMux
