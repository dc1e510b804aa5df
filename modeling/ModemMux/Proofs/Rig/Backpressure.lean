import ModemMux.Proofs.Loopback.Signals
import ModemMux.Proofs.Rig.Links

/-!
# Backpressure

Three things move apart from each other: the queue of a channel, the channel's mark that it has
asked for a stop, and the state of its session; they are tied by the modem's signals alone. Mark and
queue are one in a sound store. `Paced r l` says that session and mark are one too, and a change of
a channel keeps this if the signals for the change are heeded (`Paced.modify`). So on a rig that is
hooked up, where nobody else asks sessions to stop, a session is stopped if and only if the queue of
its channel is full: `Rig.isFlowControlled_iff_queued` holds after any run.
-/

namespace ModemMux

variable {η : Type}

/-! ## Signals -/

namespace Registry

variable {r : Registry} {tag : Tag} {engage : Bool}

/-- The signal for a live session's tag reaches that session. -/
theorem Sound.heedAll_ofTag (h : r.Sound) (htag : tag ∈ r.tags) :
    (r.heedAll (Signal.ofTag tag engage)).2 = r.modify tag (·.request engage) := by
  obtain ⟨s, hs, rfl⟩ := mem_tags_iff.1 htag
  obtain ⟨id, hid, hsession⟩ := Tag.exists_toSession? (h.isSession s hs)
  rw [Signal.ofTag, hid]
  simp only [Option.map_some, Option.toList_some, Registry.heedAll, Registry.heed, hsession,
    h.request_eq htag]

end Registry

/-! ## The invariant -/

/-- Sessions and channels agree, also on whether they are stopped. -/
structure Paced (r : Registry) (l : Loopback) : Prop extends Linked [] r l where
  stopped_eq : ∀ s ∈ r.sessions, ∀ c ∈ l.channels, c.id = s.channel →
    s.isFlowControlled = c.throttled

namespace Paced

variable {r r' : Registry} {l l' : Loopback} {t : Testbed η} {tag : Tag} {id : ChannelId}
  {c : OpenChannel} {f : OpenChannel → OpenChannel}

/-- Sessions and channels may go, and sessions may change in what is not looked at here. -/
theorem mono (h : Paced r l) (hlinked : Linked [] r' l')
    (hsessions : ∀ s' ∈ r'.sessions, ∃ s ∈ r.sessions,
      s'.tag = s.tag ∧ s'.channel = s.channel ∧ s'.state = s.state)
    (hchannels : l'.channels ⊆ l.channels) : Paced r' l' := by
  refine ⟨hlinked, fun s' hs' c hc hid ↦ ?_⟩
  obtain ⟨s, hs, -, hchannel, hstate⟩ := hsessions s' hs'
  rw [Session.isFlowControlled, hstate]
  exact h.stopped_eq s hs c (hchannels hc) (hid.trans hchannel)

/-- A new session runs, and its channel is empty. -/
theorem add (h : Paced r t.modem) (tag : Tag) :
    Paced (r.add tag t).2.1 (r.add tag t).2.2.modem := by
  have hlinked := h.toLinked.add tag
  have hadds := Testbed.adds_add tag r t
  generalize r.add tag t = outcome at hlinked hadds
  cases hadds with
  | rejected hmodem => exact ⟨hlinked, hmodem ▸ h.stopped_eq⟩
  | @added channel t' hopens =>
    refine ⟨hlinked, fun s hs c hc hid ↦ ?_⟩
    rcases List.mem_append.1 hs with hs | hs
    · rcases hopens.mem_channels_iff.1 hc with rfl | hc
      · -- the id was free, so it is no other session's channel
        obtain ⟨d, hd, -⟩ := h.exists_channel (Registry.mem_bindings_iff.2 ⟨s, hs, rfl, rfl⟩)
        exact absurd ((Loopback.id_of_channel? hd).trans hid.symm)
          (hopens.id_ne (Loopback.mem_of_channel? hd))
      · exact h.stopped_eq s hs c hc hid
    · obtain rfl := List.mem_singleton.1 hs
      rcases hopens.mem_channels_iff.1 hc with rfl | hc
      · rfl
      · exact absurd hid (hopens.id_ne hc)

/-- Removing a session keeps states and queues in step. -/
theorem remove (h : Paced r t.modem) (tag : Tag) :
    Paced (r.remove tag t).2.1 (r.remove tag t).2.2.modem := by
  have hlinked := h.toLinked.remove tag
  have hremoves := Testbed.removes_remove tag r t
  have hsub := hremoves.channels_subset
  generalize r.remove tag t = outcome at hlinked hremoves hsub
  refine h.mono hlinked (fun s hs ↦ ?_) hsub
  cases hremoves with
  | rejected => exact ⟨s, hs, rfl, rfl, rfl⟩
  | removed => exact ⟨s, Registry.sessions_retire_sublist.subset hs, rfl, rfl, rfl⟩

/-- What the signals for a change of a channel do to the sessions: the one that has the channel
follows it, the others stay as they are. -/
theorem exists_of_heedAll (h : Paced r l) (hc : c ∈ l.channels) (d : OpenChannel) {s' : Session}
    (hs' : s' ∈ (r.heedAll (c.signals d)).2.sessions) :
    ∃ s ∈ r.sessions, s'.channel = s.channel ∧
      s'.isFlowControlled = if s.tag = c.tag then d.throttled else s.isFlowControlled := by
  obtain ⟨s₀, hs₀, htag₀, hchannel₀⟩ := h.exists_session hc
  unfold OpenChannel.signals at hs'
  split at hs'
  next heq =>
    -- no signal: the session is as its channel wants it already
    refine ⟨s', hs', rfl, ?_⟩
    split
    next htag =>
      obtain rfl := h.table.eq_of_tag_eq hs' hs₀ (htag.trans htag₀.symm)
      rw [heq]
      exact h.stopped_eq s' hs₀ c hc hchannel₀.symm
    next => rfl
  next =>
    -- one signal, which finds the session by its tag
    rw [h.table.heedAll_ofTag (Registry.mem_tags_iff.2 ⟨s₀, hs₀, htag₀⟩)] at hs'
    obtain ⟨s, hs, rfl⟩ := Registry.mem_modify_iff.1 hs'
    refine ⟨s, hs, ?_⟩
    by_cases htag : s.tag = c.tag
    · simp [htag, Session.isFlowControlled_request (h.table.bound s hs)]
    · simp [htag]

/-- A change of a channel whose signals are heeded. -/
theorem modify (h : Paced r l) (hc : l.channel? id = some c) (hf : OpenChannel.Keeps f)
    (hsound : (f c).Sound) :
    Paced (r.heedAll (c.signals (f c))).2 (l.modify id f) := by
  have hmem := Loopback.mem_of_channel? hc
  have hlinked : Linked [] (r.heedAll (c.signals (f c))).2 (l.modify id f) :=
    h.congr (h.table.heedAll _) (h.store.modify hc hf hsound)
      (Registry.bindings_heedAll _) (Loopback.openChannels_modify hf)
  refine ⟨hlinked, fun s' hs' d hd heq ↦ ?_⟩
  obtain ⟨s, hs, hchannel, hstopped⟩ := h.exists_of_heedAll hmem (f c) hs'
  rw [hchannel] at heq
  rcases (h.store.mem_modify_iff hc).1 hd with rfl | ⟨hd, hne⟩
  · rw [hstopped, if_pos (h.tag_eq hs hmem ((hf.id c).symm.trans heq))]
  · have hother : s.tag ≠ c.tag := by
      intro htag
      obtain rfl := h.eq_of_tag_eq hd hmem ((h.tag_eq hs hd heq).symm.trans htag)
      exact hne (Loopback.id_of_channel? hc)
    rw [hstopped, if_neg hother]
    exact h.stopped_eq s hs d hd heq

/-- Submitting a payload keeps states and queues in step, once the signals are followed. -/
theorem submit (h : Paced r l) {payload : Bytes} {answer : Except ChannelError Submission}
    {signals : List Signal} (hsubmits : Loopback.Submits l tag id payload (answer, signals, l')) :
    Paced (r.heedAll signals).2 l' := by
  cases hsubmits with
  | failing | notOpen | mismatch | full => exact h
  | accepted _ hc htag hroom =>
    subst htag
    rw [h.store.signals_push hc hroom]
    exact h.modify hc (OpenChannel.keeps_push payload)
      ((h.store.sound _ (Loopback.mem_of_channel? hc)).push hroom payload)

/-- Draining a channel keeps states and queues in step, once the signals are followed. -/
theorem drain (h : Paced r l) (id : ChannelId) :
    Paced (r.heedAll (l.drain id).2.1).2 (l.drain id).2.2 := by
  cases hc : l.channel? id with
  | none =>
    have hdrain : l.drain id = ([], [], l) := by simp only [Loopback.drain, hc]
    rw [hdrain]
    exact h
  | some c =>
    rw [Loopback.drain_eq hc]
    exact h.modify hc OpenChannel.keeps_flush
      (h.store.sound c (Loopback.mem_of_channel? hc)).flush

/-- An operation other than a request for flow control, its signals heeded. -/
theorem operate [HostStack η] {d : Device (Testbed η)} (h : Paced d.registry d.peers.modem)
    {operation : Device.Operation} (hplain : ∀ id engage, operation ≠ .setFlowControl id engage) :
    Paced ((d.operate operation).2.2.registry.heedAll (d.operate operation).2.1).2
      (d.operate operation).2.2.peers.modem := by
  by_cases hquiet : operation.isQuiet
  · obtain ⟨hmodem, hsignals, -⟩ := Rig.operate_of_isQuiet (d := d) hquiet
    have hlinked := h.toLinked.operate operation
    have hcounted := Device.counted_operate (d := d) hquiet
    rw [hsignals]
    exact h.mono hlinked (fun _ hs ↦ hcounted.exists_session hs)
      (hmodem ▸ List.Subset.refl d.peers.modem.channels)
  · cases operation with
    | addSession tag => exact h.add tag
    | removeSession tag => exact h.remove tag
    | removeSessions =>
      exact Registry.removeEach_induction
        (P := fun (r : Registry) (t : Testbed η) ↦ Paced r t.modem)
        (fun tag _ _ h ↦ h.remove tag) d.registry.tags h
    | transmit memory frame =>
      have htransmits := Device.transmits_transmit memory frame d
      simp only [Device.operate]
      generalize d.transmit memory frame = outcome at htransmits
      cases htransmits with
      | discarded | refused => exact h
      | submitted _ _ _ _ _ hsubmit => exact h.submit (Testbed.submits hsubmit)
    | setFlowControl id engage => exact absurd rfl (hplain id engage)
    | _ => exact absurd rfl hquiet

/-! ## What a stopped session means -/

/-- A session is stopped if and only if the queue of its channel is full. -/
theorem isFlowControlled_iff (h : Paced r l) {s : Session} (hs : s ∈ r.sessions) :
    s.isFlowControlled ↔ l.queued s.channel = l.depthFor s.tag := by
  obtain ⟨c, hc, htag⟩ := h.exists_channel (Registry.mem_bindings_iff.2 ⟨s, hs, rfl, rfl⟩)
  have hmem := Loopback.mem_of_channel? hc
  rw [h.stopped_eq s hs c hmem (Loopback.id_of_channel? hc), (h.store.sound c hmem).throttled_iff,
    h.store.depth_eq c hmem, htag, Loopback.queued, hc]
  rfl

/-- A frame that its session may carry comes back as it was if the session is stopped, and is sent
if not. -/
theorem transmit_eq {d : Device (Testbed η)} (h : Paced d.registry d.peers.modem)
    (hfail : d.peers.modem.failsTransmits = false) {memory : Memory} (hmemory : memory.Available)
    {s : Session} (hs : s ∈ d.registry.sessions) {frame : Frame} {cut : Split}
    (htag : frame.tag? = some s.tag) (hcut : frame.split = .ok cut)
    (hcarry : s.tag.classify.carries cut.payloadClass) :
    (d.transmit memory frame).1 = .ok (if s.isFlowControlled then .busy frame else .sent) := by
  have hb : (s.tag, s.channel) ∈ d.registry.bindings :=
    Registry.mem_bindings_iff.2 ⟨s, hs, rfl, rfl⟩
  obtain ⟨c, hc, hctag⟩ := h.exists_channel hb
  have hmem := Loopback.mem_of_channel? hc
  have hfull : s.isFlowControlled = c.isFull :=
    (h.stopped_eq s hs c hmem (Loopback.id_of_channel? hc)).trans
      (h.store.sound c hmem).throttled_eq
  rw [Device.transmit_of_available hmemory htag (Tag.ne_zero_of_isSession (h.table.isSession s hs))
    hcut (h.table.channelOf?_eq_some_iff.2 hb) hcarry]
  have hanswer : (Transport.submit s.tag s.channel cut.payload d.peers).1 =
      .ok (if c.isFull then .retry cut.payload else .accepted) :=
    (Testbed.submits rfl).eq_ok hfail hc hctag
  rw [hanswer, hfull]
  cases c.isFull with
  | false => rfl
  | true =>
    simp only [if_true, Routed.settle, Split.reassemble_of_available hmemory,
      Split.join_payload hcut]

end Paced

/-! ## Runs -/

namespace Rig

/-- Whether an action leaves the channels to the device and flow control to the modem. -/
def Action.isPlain : Action η → Bool
  | .steal _ _ | .device (.setFlowControl _ _) => false
  | .device _ | .drain _ | .refuseOpens _ | .failTransmits _ | .changeHost _ => true

variable {rig : Rig η}

/-- A frame that comes back leaves nothing behind. -/
theorem transmit_busy {memory : Memory} {frame back : Frame}
    (h : (rig.transmit memory frame).1 = .ok (.busy back)) :
    (rig.transmit memory frame).2 = rig := by
  have htransmits := Device.transmits_transmit memory frame rig.device
  simp only [transmit] at h ⊢
  generalize rig.device.transmit memory frame = outcome at h htransmits
  cases htransmits with
  | discarded | refused => cases h
  | @submitted _ _ _ answer _ _ _ _ _ _ _ hsubmit =>
    match answer, h, hsubmit with
    | .ok (.retry _), _, hsubmit =>
      obtain ⟨-, rfl, rfl⟩ := Testbed.submit_retry hsubmit
      exact heed_nil rig
    | .ok .accepted, h, _ | .error _, h, _ => cases h

theorem IsFresh.paced (h : rig.IsFresh) : Paced rig.device.registry rig.modem :=
  ⟨h.linked, by simp [h.sessions]⟩

variable [HostStack η] {actions : List (Action η)}

/-- One plain action keeps states and queues in step. -/
theorem paced_act (hhook : rig.hooked) (h : Paced rig.device.registry rig.modem)
    {action : Action η} (hplain : action.isPlain) :
    Paced (rig.act action).2.device.registry (rig.act action).2.modem := by
  cases action with
  | device operation =>
    rw [modem_act_device, registry_act_device, if_pos hhook]
    refine h.operate fun id engage heq ↦ ?_
    subst heq
    cases hplain
  | drain channel =>
    rw [modem_act_drain, registry_act_drain, if_pos hhook]
    exact h.drain channel
  | refuseOpens | failTransmits => exact ⟨h.toLinked.act rfl, h.stopped_eq⟩
  | steal => cases hplain
  | changeHost => exact h

/-- A run of plain actions keeps states and queues in step. -/
theorem paced_run (hfresh : rig.IsFresh) (hhook : rig.hooked)
    (hplain : ∀ action ∈ actions, action.isPlain) :
    (rig.run actions).2.hooked ∧
      Paced (rig.run actions).2.device.registry (rig.run actions).2.modem :=
  run_induction (P := fun rig ↦ rig.hooked ∧ Paced rig.device.registry rig.modem)
    (fun action rig hplain h ↦ ⟨(hooked_act action rig).trans h.1, paced_act h.1 h.2 hplain⟩)
    hplain ⟨hhook, hfresh.paced⟩

/-- On a rig that is hooked up, where nobody but the modem asks sessions to stop, a session is
stopped at any time if and only if the queue of its channel holds as many payloads as the set-up of
the modem allows. So, with memory at hand and a modem that takes payloads, a frame that its session
may carry comes back if and only if the session is stopped; a frame that comes back changes nothing;
and a session that was just added, for the first time or again, runs and has an empty queue. -/
theorem isFlowControlled_iff_queued (hfresh : rig.IsFresh) (hhook : rig.hooked)
    (hplain : ∀ action ∈ actions, action.isPlain) :
    let rig' := (rig.run actions).2
    let r := rig'.device.registry
    (∀ s ∈ r.sessions,
      (s.isFlowControlled ↔ rig'.modem.queued s.channel =
        max 1 (rig.modem.config.queueDepth.getD (ChannelConfig.ofTag s.tag).uplinkDescriptors)) ∧
      ∃ id, s.tag.toSession? = some id ∧ r.isStopped id = s.isFlowControlled) ∧
    (rig'.modem.failsTransmits = false → ∀ memory : Memory, memory.Available →
      ∀ s ∈ r.sessions, ∀ frame cut, frame.tag? = some s.tag → frame.split = .ok cut →
        s.tag.classify.carries cut.payloadClass →
        ((∃ back, (rig'.transmit memory frame).1 = .ok (.busy back)) ↔ s.isFlowControlled) ∧
        ((rig'.transmit memory frame).1 = .ok .sent ↔ s.isFlowControlled = false)) ∧
    (∀ memory frame back, (rig'.transmit memory frame).1 = .ok (.busy back) →
      (rig'.transmit memory frame).2 = rig') ∧
    (∀ tag channel, (rig'.device.addSession tag).1 = .ok channel →
      let device := (rig'.device.addSession tag).2
      (∃ s, device.registry.find? tag = some s ∧ s.channel = channel ∧ s.state = .runnable) ∧
      ∃ c, device.peers.modem.channel? channel = some c ∧ c.tag = tag ∧ c.queue = []) := by
  intro rig' r
  obtain ⟨-, h⟩ : rig'.hooked ∧ Paced r rig'.modem := paced_run hfresh hhook hplain
  have hconfig : rig'.modem.config = rig.modem.config := config_run rig actions
  refine ⟨fun s hs ↦ ⟨?_, ?_⟩, fun hfail memory hmemory s hs frame cut htag hcut hcarry ↦ ?_,
    fun memory frame back hbusy ↦ transmit_busy hbusy,
    fun tag channel hadd ↦ h.toLinked.add_eq_ok hadd⟩
  · rw [h.isFlowControlled_iff hs, Loopback.depthFor, hconfig]
  · obtain ⟨id, hid, htag⟩ := Tag.exists_toSession? (h.table.isSession s hs)
    exact ⟨id, hid, h.table.isStopped_eq hs htag⟩
  · have hanswer : (rig'.transmit memory frame).1 =
        .ok (if s.isFlowControlled then .busy frame else .sent) :=
      h.transmit_eq hfail hmemory hs htag hcut hcarry
    rw [hanswer]
    cases s.isFlowControlled <;> simp

def sendOne : List (Action Collector) :=
  [.device (.addSession 1), .device (.transmit .ample (packet 1 7))]

/-- With room for one payload the packet stops its session. -/
theorem isFlowControlled_sendOne :
    (ofConfig ⟨64, some 1⟩).IsFresh ∧ (ofConfig ⟨64, some 1⟩).hooked ∧
    (∀ action ∈ sendOne, action.isPlain) ∧
    ((ofConfig ⟨64, some 1⟩).run sendOne).2.modem.queued (.ofNat 0) = 1 ∧
    ∃ s ∈ ((ofConfig ⟨64, some 1⟩).run sendOne).2.device.registry.sessions,
      s.isFlowControlled := by
  have hfresh := isFresh_ofConfig ⟨64, some 1⟩
  have hplain : ∀ action ∈ sendOne, action.isPlain := by simp [sendOne, Action.isPlain]
  obtain ⟨hstopped, -⟩ := isFlowControlled_iff_queued hfresh rfl hplain
  have hs : ⟨0, 1, .ofNat 0, .flowControlled, .zero⟩ ∈
      ((ofConfig ⟨64, some 1⟩).run sendOne).2.device.registry.sessions := by decide
  exact ⟨hfresh, rfl, hplain, by decide, _, hs, (hstopped _ hs).1.2 (by decide)⟩

end Rig

end ModemMux
