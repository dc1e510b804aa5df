import ModemMux.Proofs.Device.Calls
import ModemMux.Proofs.Device.Life
import ModemMux.Proofs.Registry.Closing

/-!
# What a device asks of its peers in its life

A device that a host has taken works until it ends. It works without a call that attaches or
detaches it (`Device.extends_run`). When it ends it is detached, and then each channel is closed
that it has open (`Device.exists_closings_shutdown`). From then on nothing is asked of anyone
(`Device.run_ended`). So the calls of a whole life are known in their order (`Device.calls_life`),
whatever the transport and the host answer, and so is what those find who can still ask sessions to
stop.
-/

namespace ModemMux

def Call.isAttachment : Call → Bool
  | .attach _ _ | .detach => true
  | .openChannel _ _ | .closeChannel _ _ _ | .submit _ _ _ | .deliver _ _ => false

namespace Recorded

variable {ω : Type} {w w' w'' : Recorded ω}

/-- Peers after more calls, none of which attaches or detaches a device. -/
def Extends (w w' : Recorded ω) : Prop :=
  ∃ calls, w'.calls = w.calls ++ calls ∧ ∀ call ∈ calls, call.isAttachment = false

namespace Extends

/-- A recording in which no call was made extends the one before it. -/
theorem of_calls_eq (h : w'.calls = w.calls) : w.Extends w' := ExtendsBy.of_calls_eq h

theorem refl (w : Recorded ω) : w.Extends w := of_calls_eq rfl

theorem trans (h : w.Extends w') (h' : w'.Extends w'') : w.Extends w'' := ExtendsBy.trans h h'

end Extends

end Recorded

namespace Registry

/-- What one finds who asks a session to stop or to restart: an id that is no session's, no live
session, or one that obeys. -/
theorem Sound.heed_cases {r : Registry} (h : r.Sound) (signal : Signal) :
    (Tag.ofSession? signal.session = none →
      r.heed signal = (.error (.invalidSessionId signal.session), r)) ∧
    ∀ tag, Tag.ofSession? signal.session = some tag →
      (tag ∉ r.tags → r.heed signal = (.error (.unknownSession tag), r)) ∧
      (tag ∈ r.tags → (r.heed signal).1 = .ok () ∧
        (r.heed signal).2.isStopped signal.session = signal.engage) := by
  refine ⟨heed_of_eq_none, fun tag hid ↦ ⟨heed_of_notMem hid, fun hlive ↦ ?_⟩⟩
  obtain ⟨s, hs, rfl⟩ := mem_tags_iff.1 hlive
  have hs' : s.request signal.engage ∈ (r.modify s.tag (·.request signal.engage)).sessions :=
    mem_modify_iff.2 ⟨s, hs, if_pos (beq_self_eq_true _)⟩
  rw [h.heed_of_mem hid hlive]
  refine ⟨rfl, ?_⟩
  rw [(h.modify (keeps_request signal.engage)).isStopped_eq hs' hid]
  exact Session.isFlowControlled_request (h.bound s hs) signal.engage

end Registry

namespace Device

variable {ω : Type}

def Step.isOperation : Step ω → Bool
  | .operate _ => true
  | .count _ _ _ | .signal _ | .changePeers _ | .deinit | .drop => false

/-- The step of a device whose calls are recorded. -/
def Step.recorded : Step ω → Step (Recorded ω)
  | .operate operation => .operate operation
  | .count tag bytes direction => .count tag bytes direction
  | .signal request => .signal request
  | .changePeers change => .changePeers fun w ↦ { w with peers := change w.peers }
  | .deinit => .deinit
  | .drop => .drop

@[simp] theorem isEnd_recorded (step : Step ω) : step.recorded.isEnd = step.isEnd := by
  cases step <;> rfl

variable [Transport ω] [HostStack ω] {d : Device (Recorded ω)} {step : Step ω}

/-! ## At work -/

/-- No operation attaches or detaches the device. -/
theorem extends_operate (operation : Operation) (d : Device (Recorded ω)) :
    d.peers.Extends (d.operate operation).2.2.peers := by
  refine (calls_operate operation d).mono fun call hcall ↦ ?_
  cases hcall <;> rfl

/-- At work a device is neither attached nor detached, and the host keeps it. -/
theorem extends_advance (hstep : step.isEnd = false) (d : Device (Recorded ω)) :
    d.peers.Extends (d.advance step.recorded).peers ∧
      (d.advance step.recorded).registered = d.registered := by
  cases step with
  | operate operation => exact ⟨extends_operate operation d, (lasting_operate operation d).2⟩
  | count | signal => exact ⟨.refl _, rfl⟩
  | changePeers => exact ⟨.of_calls_eq rfl, rfl⟩
  | deinit | drop => cases hstep

/-- Short of its end a life neither attaches nor detaches again, and remains registered. -/
theorem extends_run {steps : List (Step ω)} (hsteps : ∀ step ∈ steps, step.isEnd = false)
    (d : Device (Recorded ω)) :
    d.peers.Extends (d.run (steps.map .recorded)).peers ∧
      (d.run (steps.map .recorded)).registered = d.registered := by
  refine run_induction
    (P := fun d' ↦ d.peers.Extends d'.peers ∧ d'.registered = d.registered) ?_ ⟨.refl _, rfl⟩
  rintro _ hmem d' ⟨hcalls, hregistered⟩
  obtain ⟨step, hstep, rfl⟩ := List.mem_map.1 hmem
  obtain ⟨hcalls', hregistered'⟩ := extends_advance (hsteps step hstep) d'
  exact ⟨hcalls.trans hcalls', hregistered'.trans hregistered⟩

/-! ## The end and after -/

/-- A device that no host has is given up without a call. -/
theorem shutdown_of_unregistered (hd : d.registered = false) : d.shutdown = d := by
  rw [shutdown, if_neg (by simp [hd])]

/-- At its end the device is detached, and then each channel is closed that it has open. -/
theorem exists_closings_shutdown (hd : d.registered) (hsound : d.registry.Sound) :
    ∃ closings : List Closing, closings.map (·.session) = d.registry.sessions ∧
      d.shutdown.peers.calls = d.peers.calls ++ .detach :: closings.map (·.call) ∧
      d.shutdown.registry.sessions = (closings.filter (·.isRefused)).map (·.session) := by
  obtain ⟨closings, hmap, hcalls, hsessions⟩ :=
    hsound.exists_closings (HostStack.detach d.peers)
  refine ⟨closings, hmap, ?_, ?_⟩
  · rw [shutdown, if_pos hd]
    refine hcalls.trans ?_
    rw [show (HostStack.detach d.peers).calls = d.peers.calls ++ [.detach] from rfl,
      List.append_assoc, List.singleton_append]
  · rw [shutdown, if_pos hd]
    exact hsessions

/-- Once it has ended, nothing that can still happen makes a call or changes which channel a
session has. -/
theorem advance_ended (hd : d.registered = false) (hstep : step.isOperation = false) :
    (d.advance step.recorded).registered = false ∧
      (d.advance step.recorded).peers.calls = d.peers.calls ∧
      (d.advance step.recorded).registry.bindings = d.registry.bindings := by
  cases step with
  | operate => cases hstep
  | count => exact ⟨hd, rfl, Registry.bindings_count⟩
  | signal => exact ⟨hd, rfl, Registry.bindings_heed⟩
  | changePeers => exact ⟨hd, rfl, rfl⟩
  | deinit | drop =>
    rw [advance_of_isEnd rfl, shutdown_of_unregistered hd]
    exact ⟨hd, rfl, rfl⟩

/-- Once it is detached, a device asks its peers for nothing more. -/
theorem run_ended (hd : d.registered = false) {steps : List (Step ω)}
    (hsteps : ∀ step ∈ steps, step.isOperation = false) :
    (d.run (steps.map .recorded)).peers.calls = d.peers.calls ∧
      (d.run (steps.map .recorded)).registry.bindings = d.registry.bindings := by
  refine (run_induction (P := fun d' ↦ d'.registered = false ∧ d'.peers.calls = d.peers.calls ∧
    d'.registry.bindings = d.registry.bindings) ?_ ⟨hd, rfl, rfl⟩).2
  rintro _ hmem d' ⟨hd', hcalls, hbindings⟩
  obtain ⟨step, hstep, rfl⟩ := List.mem_map.1 hmem
  obtain ⟨hd'', hcalls', hbindings'⟩ := advance_ended hd' (hsteps step hstep)
  exact ⟨hd'', hcalls'.trans hcalls, hbindings'.trans hbindings⟩

/-- However a device ends and whatever happens then, its last calls are those of its end, and the
channels that were not closed stay with their sessions. -/
theorem exists_closings_ended (hd : d.registered) (hsound : d.registry.Sound) (hstep : step.isEnd)
    {steps : List (Step ω)} (hsteps : ∀ step ∈ steps, step.isOperation = false) :
    let ended := (d.advance step.recorded).run (steps.map .recorded)
    ∃ closings : List Closing, closings.map (·.session) = d.registry.sessions ∧
      ended.peers.calls = d.peers.calls ++ .detach :: closings.map (·.call) ∧
      ended.registry.bindings =
        (closings.filter (·.isRefused)).map fun c ↦ (c.session.tag, c.session.channel) := by
  intro ended
  obtain ⟨closings, hmap, hcalls, hsessions⟩ := exists_closings_shutdown hd hsound
  have hended : ended = d.shutdown.run (steps.map .recorded) := by
    rw [← advance_of_isEnd (by rwa [isEnd_recorded]) d]
  obtain ⟨hcalls', hbindings⟩ := run_ended d.registered_shutdown hsteps
  refine ⟨closings, hmap, ?_, ?_⟩
  · rw [hended, hcalls', hcalls]
  · rw [hended, hbindings, Registry.bindings, hsessions, List.map_map]
    rfl

/-! ## The beginning -/

omit [Transport ω] [HostStack ω] in
/-- What the host is told of a device that is being set up. -/
theorem info_blank (config : Config) (mac : Mac) (peers : ω) :
    (blank config mac peers).info = ⟨config.name, mac, config.mtu, config.maxSessions + 1⟩ := by
  simp [info, blank, txQueueCount, Nat.add_comm]

omit [Transport ω] in
/-- An invalid configuration is refused before the host hears of it. -/
theorem init_of_invalid {config : Config} {e : MuxError} (h : config.validate = .error e)
    (spare : Mac) (peers : ω) : init config spare peers = .error (e, peers) := by
  rw [init, h]

section

variable {config : Config} {mac : Option Mac} {spare : Mac} {peers peers' : ω}

omit [Transport ω] in
/-- A set-up that is accepted is up to the host. -/
theorem init_of_rejected (h : config.validate = .ok ()) (hmac : config.address? = .ok mac)
    {reason : String}
    (hattach : HostStack.attach
      ⟨config.name, mac.getD spare, config.mtu, config.maxSessions + 1⟩ peers =
        (.error reason, peers')) :
    init config spare peers = .error (.hostRejected reason, peers') := by
  rw [← info_blank config (mac.getD spare) peers] at hattach
  simp only [init, h, hmac, hattach]

omit [Transport ω] in
/-- A device whose host accepts it starts out blank, and registered. -/
theorem init_of_attached (h : config.validate = .ok ()) (hmac : config.address? = .ok mac)
    (hattach : HostStack.attach
      ⟨config.name, mac.getD spare, config.mtu, config.maxSessions + 1⟩ peers = (.ok (), peers')) :
    init config spare peers =
      .ok { blank config (mac.getD spare) peers with registered := true, peers := peers' } := by
  rw [← info_blank config (mac.getD spare) peers] at hattach
  simp only [init, h, hmac, hattach]

end

/-! ## The whole life -/

/-- The calls of a device's life. If the set-up is invalid, nobody is called. If the host does not
take the device, that was the only call. If it does, the device is attached under its own name,
address and transfer unit and with one transmit queue more than there are IP sessions, before all
else and once. It is detached once, at its end, however it ends. Then each live session's channel is
asked to be closed, once and in table order, and no call follows. What is left are the sessions
whose channels were not closed: they obey whoever asks them to stop or to restart, and no other id
names a session. -/
theorem calls_life (config : Config) (spare : Mac) (peers : ω) :
    (∀ e, config.validate = .error e →
      init config spare (.fresh peers : Recorded ω) = .error (e, .fresh peers)) ∧
    (config.validate = .ok () → ∃ mac, config.address? = .ok mac ∧
      let info : DeviceInfo := ⟨config.name, mac.getD spare, config.mtu, config.maxSessions + 1⟩
      (∀ reason peers', HostStack.attach info peers = (.error reason, peers') →
        let w : Recorded ω := ⟨peers', [.attach info (.error reason)]⟩
        init config spare (.fresh peers) = .error (.hostRejected reason, w) ∧
          (blank config (mac.getD spare) w).drop.peers = w) ∧
      ∀ peers', HostStack.attach info peers = (.ok (), peers') →
        ∃ d : Device (Recorded ω), init config spare (.fresh peers) = .ok d ∧ d.info = info ∧
        ∀ (before : List (Step ω)) (ending : Step ω) (after : List (Step ω)),
          (∀ step ∈ before, step.isEnd = false) → ending.isEnd →
          (∀ step ∈ after, step.isOperation = false) →
          let last := d.run (before.map .recorded)
          let ended := (last.advance ending.recorded).run (after.map .recorded)
          ∃ (between : List Call) (closings : List Closing),
            last.peers.calls = .attach info (.ok ()) :: between ∧
            (∀ call ∈ between, call.isAttachment = false) ∧
            ended.peers.calls = last.peers.calls ++ .detach :: closings.map (·.call) ∧
            closings.map (·.session) = last.registry.sessions ∧
            ended.registry.bindings =
              (closings.filter (·.isRefused)).map (fun c ↦ (c.session.tag, c.session.channel)) ∧
            ∀ signal : Signal,
              (Tag.ofSession? signal.session = none →
                ended.registry.heed signal =
                  (.error (.invalidSessionId signal.session), ended.registry)) ∧
              ∀ tag, Tag.ofSession? signal.session = some tag →
                (tag ∉ ended.registry.tags →
                  ended.registry.heed signal = (.error (.unknownSession tag), ended.registry)) ∧
                (tag ∈ ended.registry.tags →
                  (ended.registry.heed signal).1 = .ok () ∧
                    (ended.registry.heed signal).2.isStopped signal.session = signal.engage)) := by
  refine ⟨fun e hconfig ↦ init_of_invalid hconfig spare _, fun hconfig ↦ ?_⟩
  obtain ⟨mac, hmac⟩ := config.exists_address? hconfig
  refine ⟨mac, hmac, ?_⟩
  intro info
  -- the host answers as it does unrecorded
  have hattach {answer : Except String Unit} {peers' : ω}
      (h : HostStack.attach info peers = (answer, peers')) :
      HostStack.attach info (.fresh peers : Recorded ω) =
        (answer, ⟨peers', [.attach info answer]⟩) := by
    simp [HostStack.attach, Recorded.fresh, Recorded.note, h]
  constructor
  · intro reason peers' hrejected w
    refine ⟨init_of_rejected hconfig hmac (hattach hrejected), ?_⟩
    · rw [drop, shutdown_of_unregistered rfl]
      rfl
  · intro peers' hok
    have hinit := init_of_attached hconfig hmac (hattach hok)
    refine ⟨_, hinit, info_blank config (mac.getD spare) (.fresh peers : Recorded ω), ?_⟩
    intro before ending after hbefore hending hafter last ended
    obtain ⟨⟨between, hcalls, hbetween⟩, hregistered⟩ := extends_run hbefore _
    have hsound : last.registry.Sound := (sound_run hinit _).1
    obtain ⟨closings, hmap, hclosings, hleft⟩ :=
      exists_closings_ended hregistered hsound hending hafter
    refine ⟨between, closings, hcalls, hbetween, hclosings, hmap, hleft, ?_⟩
    have hended : ended.registry.Sound := by
      have hsound := (sound_run hinit
        (before.map .recorded ++ ending.recorded :: after.map .recorded)).1
      rw [run_append] at hsound
      exact hsound
    exact fun signal ↦ hended.heed_cases signal

/-- Of two sessions the first loses its channel behind the device's back. -/
def bereft : List (Step Testbed) :=
  [.operate (.addSession 1), .operate (.addSession 2),
    .changePeers fun t ↦ { t with modem := (t.modem.closeChannel 1 (.ofNat 0)).2 }]

/-- A device without a name is no device, and a host may take none. When a device ends that was
taken, the first session stays and can be restarted, and the second is gone. -/
theorem calls_bereft :
    (∃ e, init { name := "" } .zero (.fresh ⟨{}, {}⟩ : Recorded Testbed) =
      .error (e, .fresh ⟨{}, {}⟩)) ∧
    (∃ reason w, init {} .zero (.fresh ⟨{}, { rejectsAttach := true }⟩ : Recorded Testbed) =
      .error (.hostRejected reason, w) ∧ w.calls.length = 1) ∧
    ∃ d : Device (Recorded Testbed),
      init {} .zero (.fresh ⟨{}, {}⟩) = .ok d ∧ (∀ step ∈ bereft, step.isEnd = false) ∧
      let last := d.run (bereft.map .recorded)
      let ended :=
        (last.advance (Step.recorded .deinit)).run ([.signal ⟨0, true⟩, .drop].map .recorded)
      (∃ closings : List Closing, closings.map (·.session.tag) = [1, 2] ∧
        ended.peers.calls = last.peers.calls ++ .detach :: closings.map (·.call)) ∧
      ended.registry.isStopped 0 ∧ (ended.registry.heed ⟨0, false⟩).2.isStopped 0 = false ∧
      ended.registry.heed ⟨1, true⟩ = (.error (.unknownSession 2), ended.registry) := by
  obtain ⟨hinvalid, -⟩ := calls_life { name := "" } .zero (⟨{}, {}⟩ : Testbed)
  obtain ⟨-, hrefused⟩ := calls_life {} .zero (⟨{}, { rejectsAttach := true }⟩ : Testbed)
  obtain ⟨mac, hmac, hrejects, -⟩ := hrefused rfl
  refine ⟨⟨_, hinvalid _ rfl⟩, ⟨_, _, (hrejects _ _ rfl).1, rfl⟩, ?_⟩
  obtain ⟨-, hvalid⟩ := calls_life {} .zero (⟨{}, {}⟩ : Testbed)
  obtain ⟨mac, hmac, -, hlife⟩ := hvalid rfl
  obtain rfl : none = mac := Except.ok.inj hmac
  obtain ⟨d, hinit, -, hends⟩ := hlife _ rfl
  have hbefore : ∀ step ∈ bereft, step.isEnd = false := by simp [bereft, Step.isEnd]
  refine ⟨d, hinit, hbefore, ?_⟩
  intro last ended
  obtain ⟨-, closings, -, -, hclosings, hmap, -, hsignal⟩ :=
    hends bereft .deinit [.signal ⟨0, true⟩, .drop] hbefore rfl (by simp [Step.isOperation])
  have hd : (init {} .zero (.fresh ⟨{}, {}⟩) : Except _ (Device (Recorded Testbed))) = .ok _ := rfl
  obtain rfl := Except.ok.inj (hinit.symm.trans hd)
  refine ⟨⟨closings, ?_, hclosings⟩, by decide, ?_, ?_⟩
  · have htags : closings.map (·.session.tag) = last.registry.tags := by
      rw [Registry.tags, ← hmap, List.map_map]
      rfl
    exact htags.trans (by decide)
  · exact (((hsignal ⟨0, false⟩).2 1 rfl).2 (by decide)).2
  · exact ((hsignal ⟨1, true⟩).2 2 rfl).1 (by decide)

end Device

end ModemMux
