import ModemMux.Proofs.Rig.Backpressure

/-!
# Frames that come back

A frame that a full channel hands back has been cut, perhaps realigned, and put together again.
Whatever shape its header has, what comes back is its tag, its header and the bytes that the
transport has handed back (`Device.transmit_eq_busy`): the frame itself, if these are the bytes that
the transport was given. A modem in memory gives them back and stays as it is, so such a frame can
be sent once more. `Rig.transmit_resubmitted` says that it goes through once the channel of its
session is drained.
-/

namespace ModemMux

/-! ## Putting a frame together again -/

/-- Only a payload that is handed back makes a frame come back, with its header and that payload. -/
theorem Routed.settle_eq_busy {memory : Memory} {routed : Routed}
    {answer : Except ChannelError Submission} {back : Frame}
    (h : routed.settle memory answer = .ok (.busy back)) :
    ∃ payload, answer = .ok (.retry payload) ∧ back = routed.cut.join payload := by
  unfold settle at h
  split at h
  · cases h
  next payload =>
    unfold Split.reassemble at h
    split at h
    next heq =>
      split at heq
      · cases heq
        cases h
        exact ⟨payload, rfl, rfl⟩
      · cases heq
    next => cases h
  · cases h

/-- Whether a transport that does not take a payload now hands back that very payload. -/
def Transport.HandsBack (ω : Type) [Transport ω] : Prop :=
  ∀ tag channel payload (peers : ω) back,
    (Transport.submit tag channel payload peers).1 = .ok (.retry back) → back = payload

namespace Testbed

variable {η : Type}

/-- The modem hands a payload back as it was given, where it hands it back. -/
theorem handsBack : Transport.HandsBack (Testbed η) := by
  intro tag channel payload t back h
  exact (submit_retry (Prod.ext h rfl)).1

/-- A modem that hands a payload back has the channel open for the payload's tag. -/
theorem mem_openChannels_of_retry {t : Testbed η} (h : t.modem.Sound) {tag : Tag}
    {channel : ChannelId} {payload back : Bytes}
    (hretry : (Transport.submit tag channel payload t).1 = .ok (.retry back)) :
    (tag, channel) ∈ t.modem.openChannels := by
  have hsubmits := Loopback.submits_submit t.modem tag channel payload
  simp only [Transport.submit] at hretry
  generalize t.modem.submit tag channel payload = outcome at hretry hsubmits
  cases hsubmits with
  | full _ hc htag => exact h.mem_openChannels_iff.2 ⟨_, hc, htag⟩
  | _ => cases hretry

end Testbed

namespace Device

variable {ω : Type} [Transport ω] {d : Device ω} {memory : Memory} {frame back : Frame}

/-- A frame that comes back has reached the channel of its session. -/
theorem transmit_eq_busy (h : (d.transmit memory frame).1 = .ok (.busy back)) :
    ∃ tag cut channel payload, frame.tag? = some tag ∧ tag ≠ 0 ∧ frame.split = .ok cut ∧
      d.registry.channelOf? tag = some channel ∧ tag.classify.carries cut.payloadClass ∧
      (Transport.submit tag channel frame.payload d.peers).1 = .ok (.retry payload) ∧
      back = frame.withPayload payload := by
  have htransmits := transmits_transmit memory frame d
  generalize d.transmit memory frame = outcome at h htransmits
  cases htransmits with
  | discarded | refused => cases h
  | @submitted tag cut channel _ _ _ htag hne hcut hs hcarry hsubmit =>
    obtain ⟨payload, rfl, rfl⟩ := Routed.settle_eq_busy h
    rw [← Frame.payload_of_split hcut]
    exact ⟨tag, cut, channel, payload, htag, hne, hcut, hs, hcarry, congrArg Prod.fst hsubmit,
      Frame.join_of_split hcut payload⟩

/-- A frame that is handed back is the frame that was given. -/
theorem eq_of_transmit_eq_busy (hback : Transport.HandsBack ω)
    (h : (d.transmit memory frame).1 = .ok (.busy back)) : back = frame := by
  obtain ⟨tag, cut, channel, payload, -, -, -, -, -, hretry, rfl⟩ := transmit_eq_busy h
  rw [hback tag channel frame.payload d.peers payload hretry, Frame.withPayload_payload]

/-- With memory at hand a frame whose payload is handed back comes back. -/
theorem transmit_of_retry (hmemory : memory.Available) {routed : Routed} {payload : Bytes}
    (hroute : d.registry.route memory frame = .ok (some routed))
    (hretry : (Transport.submit routed.tag routed.channel routed.payload d.peers).1 =
      .ok (.retry payload)) :
    (d.transmit memory frame).1 = .ok (.busy (frame.withPayload payload)) := by
  have hroutes := Registry.routes_route memory frame d.registry
  rw [hroute] at hroutes
  cases hroutes with
  | routed _ _ hcut _ _ =>
    simp only [transmit, hroute, hretry, Routed.settle, Split.reassemble_of_available hmemory,
      Frame.join_of_split hcut]

end Device

/-! ## Sending it once more -/

/-- A channel that was emptied has room. -/
theorem OpenChannel.Sound.isFull_flush {c : OpenChannel} (h : c.Sound) :
    c.flush.isFull = false := by
  have := h.pos
  rw [Bool.eq_false_iff, ne_eq, isFull_iff, queue_flush, depth_flush, List.length_nil]
  omega

namespace Loopback

variable {l : Loopback} {tag : Tag} {id : ChannelId} {c : OpenChannel}

/-- A payload is accepted and queued where there is room. -/
theorem submit_of_room (hfail : l.failsTransmits = false) (hc : l.channel? id = some c)
    (htag : c.tag = tag) (hroom : c.isFull = false) (payload : Bytes) :
    (l.submit tag id payload).1 = .ok .accepted ∧
      (l.submit tag id payload).2.2 = l.modify id (·.push payload) := by
  simp [submit, hfail, hc, htag, hroom]

end Loopback

namespace Linked

variable {η : Type} {lost : List (Tag × ChannelId)} {r : Registry} {l : Loopback} {tag : Tag}
  {channel : ChannelId}

/-- A tag that has an open channel is not that of a session without one. -/
theorem notMem_lost (h : Linked lost r l) (hopen : (tag, channel) ∈ l.openChannels) :
    tag ∉ lost.map Prod.fst := by
  have htags : r.bindings.map Prod.fst = r.tags := by
    simp [Registry.bindings, Registry.tags, Function.comp_def]
  have hnodup : ((l.openChannels ++ lost).map Prod.fst).Nodup :=
    (h.perm.map _).nodup_iff.2 (htags ▸ h.table.nodup)
  rw [List.map_append, List.nodup_append] at hnodup
  exact fun hlost ↦ hnodup.2.2 tag (List.mem_map_of_mem hopen) tag hlost rfl

theorem mem_openChannels (h : Linked lost r l) (hb : (tag, channel) ∈ r.bindings)
    (htag : tag ∉ lost.map Prod.fst) : (tag, channel) ∈ l.openChannels := by
  rcases List.mem_append.1 (h.perm.symm.subset hb) with hopen | hlost
  · exact hopen
  · exact absurd (List.mem_map_of_mem hlost) htag

end Linked

namespace Rig

variable {η : Type} {rig : Rig η} {lost : List (Tag × ChannelId)} {memory : Memory}
  {frame back : Frame} {cut : Split} {tag : Tag} {channel : ChannelId} {c : OpenChannel}

theorem fst_transmit :
    (rig.transmit memory frame).1 = (rig.device.transmit memory frame).1 := rfl

/-- A frame for a channel with room is sent and queued. -/
theorem transmit_of_room (h : Linked lost rig.device.registry rig.modem)
    (hfail : rig.modem.failsTransmits = false) (hmemory : memory.Available)
    (htag : frame.tag? = some tag) (hne : tag ≠ 0) (hcut : frame.split = .ok cut)
    (hcarry : tag.classify.carries cut.payloadClass)
    (hb : (tag, channel) ∈ rig.device.registry.bindings)
    (hc : rig.modem.channel? channel = some c) (hctag : c.tag = tag) (hroom : c.isFull = false) :
    (rig.transmit memory frame).1 = .ok .sent ∧
      (rig.transmit memory frame).2.modem.channel? channel = some (c.push frame.payload) := by
  obtain ⟨hanswer, hmodem⟩ : (Transport.submit tag channel cut.payload rig.device.peers).1 =
      .ok .accepted ∧ (Transport.submit tag channel cut.payload rig.device.peers).2.2.modem =
        rig.modem.modify channel (·.push cut.payload) :=
    Loopback.submit_of_room hfail hc hctag hroom cut.payload
  have htransmit := Device.transmit_of_available (d := rig.device) hmemory htag hne hcut
    (h.table.channelOf?_eq_some_iff.2 hb) hcarry
  simp only [transmit, htransmit, modem_heed, hanswer]
  refine ⟨rfl, ?_⟩
  rw [← Frame.payload_of_split hcut,
    ← Loopback.channel?_modify hc (OpenChannel.keeps_push cut.payload), ← hmodem]
  rfl

variable [HostStack η]

/-- Once an open channel is drained a frame for it is sent, and is all that waits on the channel. -/
theorem transmit_drain (h : Linked lost rig.device.registry rig.modem)
    (hopen : (tag, channel) ∈ rig.modem.openChannels) (hfail : rig.modem.failsTransmits = false)
    (hmemory : memory.Available) (htag : frame.tag? = some tag) (hne : tag ≠ 0)
    (hcut : frame.split = .ok cut) (hcarry : tag.classify.carries cut.payloadClass) :
    let drained := (rig.drain channel).2
    (drained.transmit memory frame).1 = .ok .sent ∧
      ((drained.transmit memory frame).2.modem.channel? channel).map (·.queue) =
        some [frame.payload] := by
  intro drained
  obtain ⟨c, hc, hctag⟩ := h.store.mem_openChannels_iff.1 hopen
  have hlinked : Linked lost drained.device.registry drained.modem :=
    h.act (rfl : (Action.drain channel : Action η).isLoyal)
  have hmodem : drained.modem = rig.modem.modify channel (·.flush) := by
    have hdrain : drained.modem = (rig.modem.drain channel).2.2 := modem_act_drain rig channel
    rw [hdrain, Loopback.drain_eq hc]
  have hfail' : drained.modem.failsTransmits = false := by
    rw [hmodem]
    exact hfail
  have hc' : drained.modem.channel? channel = some c.flush := by
    rw [hmodem]
    exact Loopback.channel?_modify hc OpenChannel.keeps_flush
  have hroom := (h.store.sound c (Loopback.mem_of_channel? hc)).isFull_flush
  have hb : (tag, channel) ∈ drained.device.registry.bindings :=
    hlinked.mem_bindings (hlinked.store.mem_openChannels_iff.2 ⟨_, hc', hctag⟩)
  obtain ⟨hsent, hqueue⟩ :=
    transmit_of_room hlinked hfail' hmemory htag hne hcut hcarry hb hc' hctag hroom
  exact ⟨hsent, by simp [hqueue]⟩

/-- A frame that has come back goes through when the channel of its session has been drained,
whatever happens before that short of a channel that is closed behind the device's back. -/
theorem transmit_drain_of_busy (h : Linked lost rig.device.registry rig.modem)
    (hbusy : (rig.transmit memory frame).1 = .ok (.busy back)) {between : List (Action η)}
    (hloyal : ∀ action ∈ between, action.isLoyal)
    (hfail : (rig.run between).2.modem.failsTransmits = false) {s : Session}
    (hs : s ∈ (rig.run between).2.device.registry.sessions) (htag : frame.tag? = some s.tag)
    {memory' : Memory} (hmemory : memory'.Available) :
    let drained := ((rig.run between).2.drain s.channel).2
    (drained.transmit memory' frame).1 = .ok .sent ∧
      ((drained.transmit memory' frame).2.modem.channel? s.channel).map (·.queue) =
        some [frame.payload] := by
  obtain ⟨tag, cut, channel, payload, htag', hne, hcut, -, hcarry, hretry, -⟩ :=
    Device.transmit_eq_busy (fst_transmit.symm.trans hbusy)
  obtain rfl := Option.some.inj (htag'.symm.trans htag)
  -- the session had its channel when the frame came back, and no action takes it away
  have hkept := h.notMem_lost (Testbed.mem_openChannels_of_retry h.store hretry)
  have hlinked := h.run hloyal
  have hb : (s.tag, s.channel) ∈ (rig.run between).2.device.registry.bindings :=
    Registry.mem_bindings_iff.2 ⟨s, hs, rfl, rfl⟩
  exact transmit_drain hlinked (hlinked.mem_openChannels hb hkept) hfail hmemory htag hne hcut
    hcarry

end Rig

/-- Whatever the device, the transport and the shape of the frame: a frame that comes back has its
own tag beside it, its own link header and behind that the payload that the transport has handed
back, so it is the frame that was sent if that is the payload that the transport was given; and with
memory at hand a payload that is handed back always makes its frame come back. Over a modem in
memory the frame that comes back is the frame that was sent, after any run and even if channels were
closed behind the device's back, and nothing else has changed. If later the channel of its session
is drained, the frame goes through and is all that waits on that channel. -/
theorem transmit_resubmitted :
    (∀ (ω : Type) [Transport ω] (d : Device ω) (memory : Memory) (frame : Frame),
      (∀ back, (d.transmit memory frame).1 = .ok (.busy back) →
        (∃ tag channel payload, frame.tag? = some tag ∧ d.registry.channelOf? tag = some channel ∧
          (Transport.submit tag channel frame.payload d.peers).1 = .ok (.retry payload) ∧
          back = frame.withPayload payload) ∧
        (Transport.HandsBack ω → back = frame)) ∧
      (memory.Available → ∀ routed payload, d.registry.route memory frame = .ok (some routed) →
        (Transport.submit routed.tag routed.channel routed.payload d.peers).1 =
          .ok (.retry payload) →
        (d.transmit memory frame).1 = .ok (.busy (frame.withPayload payload)))) ∧
    (∀ (η : Type) [HostStack η] (rig : Rig η), rig.IsFresh → ∀ actions memory frame back,
      let rig' := (rig.run actions).2
      (rig'.transmit memory frame).1 = .ok (.busy back) →
      back = frame ∧ (rig'.transmit memory frame).2 = rig' ∧
      ∀ between, (∀ action ∈ between, action.isLoyal) →
        let later := (rig'.run between).2
        later.modem.failsTransmits = false →
        ∀ s ∈ later.device.registry.sessions, frame.tag? = some s.tag →
        ∀ memory' : Memory, memory'.Available →
          let drained := (later.drain s.channel).2
          (drained.transmit memory' back).1 = .ok .sent ∧
          ((drained.transmit memory' back).2.modem.channel? s.channel).map (·.queue) =
            some [frame.payload]) := by
  refine ⟨fun ω _ d memory frame ↦ ⟨fun back hbusy ↦ ⟨?_, ?_⟩, ?_⟩, ?_⟩
  · obtain ⟨tag, cut, channel, payload, htag, -, -, hs, -, hretry, hback⟩ :=
      Device.transmit_eq_busy hbusy
    exact ⟨tag, channel, payload, htag, hs, hretry, hback⟩
  · exact fun hback ↦ Device.eq_of_transmit_eq_busy hback hbusy
  · exact fun hmemory routed payload hroute hretry ↦ Device.transmit_of_retry hmemory hroute hretry
  · intro η _ rig hfresh actions memory frame back rig' hbusy
    obtain ⟨lost, hlinked⟩ := hfresh.linked.exists_run actions
    obtain rfl :=
      Device.eq_of_transmit_eq_busy Testbed.handsBack (Rig.fst_transmit.symm.trans hbusy)
    refine ⟨rfl, Rig.transmit_busy hbusy, ?_⟩
    intro between hloyal later hfail s hs htag memory' hmemory
    exact Rig.transmit_drain_of_busy hlinked hbusy hloyal hfail hs htag hmemory

/-- A frame of a control session whose tag travels in band, under priority bits. -/
def prioritised : Frame :=
  ⟨none, List.replicate 12 0 ++ [0x81, 0x00, 0xE1, 0x04, 0x00, 0x01, 0x11, 7]⟩

/-- A control session comes and sends that frame. -/
def sendPrioritised : List (Rig.Action Collector) :=
  [.device (.addSession 260), .device (.transmit .ample prioritised)]

/-- With room for one payload the frame comes back as it is when it is sent again, and goes through
after a drain. -/
theorem transmit_prioritised :
    let rig := Rig.ofConfig ⟨64, some 1⟩
    let full := (rig.run sendPrioritised).2
    rig.IsFresh ∧ Transport.HandsBack Testbed ∧
    (Transport.submit 260 (.ofNat 0) [0x11, 7] full.device.peers).1 = .ok (.retry [0x11, 7]) ∧
    (full.transmit .ample prioritised).1 = .ok (.busy prioritised) ∧
    (full.transmit .ample prioritised).2 = full ∧
    ((full.drain (.ofNat 0)).2.transmit .ample prioritised).1 = .ok .sent := by
  intro rig full
  have hfresh : rig.IsFresh := Rig.isFresh_ofConfig ⟨64, some 1⟩
  have hs : ⟨0, 260, .ofNat 0, .flowControlled, .zero⟩ ∈ full.device.registry.sessions := by decide
  have hroute : full.device.registry.route .ample prioritised =
      .ok (some ⟨260, .ofNat 0, ⟨none, prioritised.data.take 18, [0x11, 7]⟩, [0x11, 7]⟩) := rfl
  have hretry : (Transport.submit 260 (.ofNat 0) [0x11, 7] full.device.peers).1 =
      .ok (.retry [0x11, 7]) := by decide
  obtain ⟨hany, hrig⟩ := transmit_resubmitted
  have hback : prioritised.withPayload [0x11, 7] = prioritised := by decide
  have hbusy : (full.transmit .ample prioritised).1 = .ok (.busy prioritised) := by
    obtain ⟨-, hbusy⟩ := hany Testbed full.device .ample prioritised
    rw [Rig.fst_transmit, hbusy Memory.available_ample _ _ hroute hretry, hback]
  obtain ⟨-, hsame, hlater⟩ :=
    hrig Collector rig hfresh sendPrioritised .ample prioritised prioritised hbusy
  obtain ⟨hsent, -⟩ := hlater [] (by simp) rfl _ hs rfl .ample Memory.available_ample
  exact ⟨hfresh, Testbed.handsBack, hretry, hbusy, hsame, hsent⟩

end ModemMux
