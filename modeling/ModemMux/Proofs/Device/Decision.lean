import ModemMux.Proofs.Device.Echo
import ModemMux.Proofs.Device.Lifecycle

/-!
# How a device decides on a frame

`Device.Decides` is the law by which a device treats a frame from the host: which of its checks
comes first, and that the transport is asked only when all are passed, and then once. A device
follows it at any time of its life (`Device.decides_of_sound`). Of the device itself the choice
depends on the tags and channels of its sessions alone (`Device.transmit_congr`). So the calls of a
whole life hand no payload to a session that does not carry it (`Device.fits_run`).
-/

namespace ModemMux

/-- Data tags carry what starts as IP, and control tags carry the rest. -/
theorem Tag.carries_iff {tag : Tag} {payload : Bytes} : tag.classify.carries (.sniff payload) ↔
    tag.classify = .data ∧ StartsAsIp payload ∨ tag.classify = .control ∧ ¬StartsAsIp payload := by
  rw [← PayloadClass.isIp_sniff_iff]
  cases tag.classify <;> simp [TagClass.carries]

/-- Whether a call, if it hands over a payload, does so for a tag whose sessions carry it. -/
def Call.Fits : Call → Prop
  | .submit tag _ payload => tag.classify.carries (.sniff payload)
  | .openChannel _ _ | .closeChannel _ _ _ | .attach _ _ | .detach | .deliver _ _ => True

/-! ## What the choice depends on -/

namespace Registry

variable {r r' : Registry}

/-- The channel of a tag is that of the first binding of the tag, if that is within the capacity. -/
theorem channelOf?_eq_bind (tag : Tag) (r : Registry) : r.channelOf? tag =
    (r.bindings.find? (·.1 == tag)).bind fun b ↦
      if r.bindings.findIdx (·.1 == tag) < r.capacity ∧ b.2.isValid then some b.2 else none := by
  simp only [channelOf?, lookup, find?, bindings, List.find?_map, List.findIdx_map,
    Function.comp_def]
  cases r.sessions.find? (·.tag == tag) <;> rfl

/-- A frame is routed by the bindings and the capacity, whatever the counters and states. -/
theorem route_congr (hbindings : r'.bindings = r.bindings) (hcapacity : r'.capacity = r.capacity)
    (memory : Memory) (frame : Frame) : r'.route memory frame = r.route memory frame := by
  have hchannel (tag : Tag) : r'.channelOf? tag = r.channelOf? tag := by
    simp only [channelOf?_eq_bind, hbindings, hcapacity]
  simp only [route, hchannel]

end Registry

namespace Device

/-- Devices with the same bindings over the same peers treat a frame alike, whatever else
distinguishes them. -/
theorem transmit_congr {ω : Type} [Transport ω] {d other : Device ω}
    (hbindings : other.registry.bindings = d.registry.bindings)
    (hcapacity : other.registry.capacity = d.registry.capacity) (hpeers : other.peers = d.peers)
    (memory : Memory) (frame : Frame) :
    other.transmit memory frame =
      match d.transmit memory frame with
      | (answer, signals, after) => (answer, signals, { other with peers := after.peers }) := by
  rw [transmit, transmit, Registry.route_congr hbindings hcapacity, hpeers]
  split <;> simp [← hpeers]

/-! ## The law -/

variable {ω : Type} [Transport ω]

/-- How a device decides on a frame. Each rule applies when none before it does, and in all but the
last the transport is not called. -/
structure Decides (memory : Memory) (frame : Frame) (d : Device (Recorded ω)) : Prop where
  /-- Nothing takes frames without a tag or with that of the root device. -/
  discarded : frame.tag? = none ∨ frame.tag? = some 0 →
    d.transmit memory frame = (.ok .discarded, [], d)
  /-- A frame without a whole header is refused, whether or not its tag is a session's. -/
  short : ∀ tag, frame.tag? = some tag → tag ≠ 0 → frame.length < frame.headerLength →
    d.transmit memory frame =
      (.error (.headerError (.headerTooShort frame.length frame.headerLength)), [], d)
  unknown : ∀ tag, frame.tag? = some tag → tag ≠ 0 → frame.headerLength ≤ frame.length →
    tag ∉ d.registry.tags → d.transmit memory frame = (.error (.unknownSession tag), [], d)
  mismatch : ∀ tag, frame.tag? = some tag → frame.headerLength ≤ frame.length →
    tag ∈ d.registry.tags → tag.Mismatches frame.payload →
    d.transmit memory frame =
      (.error (.protocolMismatch tag tag.classify (.sniff frame.payload)), [], d)
  /-- The transport is called once, with what stands behind the header. -/
  submitted : ∀ s ∈ d.registry.sessions, frame.tag? = some s.tag →
    frame.headerLength ≤ frame.length → ¬s.tag.Mismatches frame.payload → memory.Available →
    ∀ answer signals peers',
      Transport.submit s.tag s.channel frame.payload d.peers.peers = (answer, signals, peers') →
      d.transmit memory frame = (frame.told s.tag answer, signals,
        { d with peers := d.peers.note (.submit s.tag s.channel frame.payload) peers' })

/-- Whatever a device has lived through, it decides by the law. -/
theorem decides_of_sound {d : Device (Recorded ω)} (h : d.registry.Sound) (memory : Memory)
    (frame : Frame) : d.Decides memory frame where
  discarded := transmit_of_untagged
  short tag htag hne hlen := transmit_of_short htag hne hlen
  unknown tag htag hne hlen hnew := by
    exact transmit_of_unknown htag hne (Frame.split_of_le hlen) (h.channelOf?_eq_none_iff.2 hnew)
  mismatch tag htag hlen hlive hmismatch := by
    obtain ⟨s, hs, rfl⟩ := Registry.mem_tags_iff.1 hlive
    have hsession := h.isSession s hs
    have hchannel : d.registry.channelOf? s.tag = some s.channel :=
      h.channelOf?_eq_some_iff.2 (Registry.mem_bindings_iff.2 ⟨s, hs, rfl, rfl⟩)
    rw [← Tag.carries_eq_false_iff hsession] at hmismatch
    exact transmit_of_mismatch htag (Tag.ne_zero_of_isSession hsession) (Frame.split_of_le hlen)
      hchannel hmismatch
  submitted s hs htag hlen hcarry hmemory answer signals peers' hsubmit := by
    have hsession := h.isSession s hs
    have hchannel : d.registry.channelOf? s.tag = some s.channel :=
      h.channelOf?_eq_some_iff.2 (Registry.mem_bindings_iff.2 ⟨s, hs, rfl, rfl⟩)
    rw [← Tag.carries_eq_false_iff hsession, Bool.not_eq_false] at hcarry
    exact transmit_eq_told hmemory htag (Tag.ne_zero_of_isSession hsession) hlen hchannel hcarry
      hsubmit

/-! ## What is handed over in a life -/

omit [Transport ω] in
/-- A device that has been made has attached itself, and has asked for nothing else. -/
theorem calls_of_init [HostStack ω] {config : Config} {spare : Mac} {peers : ω}
    {device : Device (Recorded ω)} (h : init config spare (.fresh peers) = .ok device) :
    ∃ info, device.peers.calls = [.attach info (.ok ())] := by
  have hinits := inits_init config spare (.fresh peers : Recorded ω)
  rw [h] at hinits
  cases hinits with
  | attached _ _ hattach => exact ⟨_, Recorded.calls_attach hattach⟩

variable [HostStack ω] {d : Device (Recorded ω)}

/-- No step hands a payload to a session that does not carry it. -/
theorem fits_advance (h : ∀ call ∈ d.peers.calls, call.Fits) (step : Step ω) :
    ∀ call ∈ (d.advance step.recorded).peers.calls, call.Fits := by
  cases step with
  | operate operation =>
    have hcalls : d.peers.ExtendsBy Call.Fits (d.operate operation).2.2.peers := by
      apply (calls_operate operation d).mono
      intro call hcall
      cases hcall with
      | submit _ _ hcarry => exact hcarry
      | _ => trivial
    exact hcalls.forall_mem h
  | count | signal | changePeers => exact h
  | deinit | drop =>
    rw [advance_of_isEnd rfl]
    exact (calls_shutdown trivial (fun _ _ _ ↦ trivial) d).forall_mem h

/-- Every payload ever submitted was one that its channel carries. -/
theorem fits_run (h : ∀ call ∈ d.peers.calls, call.Fits) (steps : List (Step ω)) :
    ∀ call ∈ (d.run (steps.map .recorded)).peers.calls, call.Fits := by
  refine run_induction (P := fun d' : Device (Recorded ω) ↦ ∀ call ∈ d'.peers.calls, call.Fits)
    ?_ h
  intro step hstep d' h'
  obtain ⟨step, -, rfl⟩ := List.mem_map.1 hstep
  exact fits_advance h' step

/-- How a device decides on frames at any time of its life, for any frame and whatever the
transport answers. It follows the law of `Decides`, where a header is of 18 bytes if its type is
the mark of an in-band tag and of 14 if not, and a marked frame that ends within that tag has none.
Of two devices over the same peers whose tables have the same bindings and the same capacity, it
makes no difference to the frame which it goes to, whatever their settings, their counters and the
states of their sessions. So in all its life a device hands over nothing but IP for data tags,
nothing that is IP for control tags, and nothing for other tags. -/
theorem decides_run {config : Config} {spare : Mac} {peers : ω} {device : Device (Recorded ω)}
    (h : init config spare (.fresh peers) = .ok device) (steps : List (Step ω)) :
    let d := device.run (steps.map .recorded)
    (∀ memory frame, d.Decides memory frame) ∧
    (∀ frame : Frame, (frame.Marked → frame.headerLength = 18) ∧
      (¬frame.Marked → frame.headerLength = 14) ∧
      (frame.vlanTag = none → frame.Marked → frame.length < 16 → frame.tag? = none)) ∧
    (∀ other : Device (Recorded ω), other.registry.bindings = d.registry.bindings →
      other.registry.capacity = d.registry.capacity → other.peers = d.peers →
      ∀ memory frame, other.transmit memory frame =
        match d.transmit memory frame with
        | (answer, signals, after) => (answer, signals, { other with peers := after.peers })) ∧
    ∀ tag channel payload, .submit tag channel payload ∈ d.peers.calls →
      tag.classify = .data ∧ StartsAsIp payload ∨
        tag.classify = .control ∧ ¬StartsAsIp payload := by
  intro d
  have hsound : d.registry.Sound := (sound_run h _).1
  obtain ⟨info, hinit⟩ := calls_of_init h
  have hfresh : ∀ call ∈ device.peers.calls, call.Fits := by
    rw [hinit]
    rintro call (_ | ⟨_, ⟨⟩⟩)
    trivial
  refine ⟨decides_of_sound hsound, ?_, ?_, ?_⟩
  · intro frame
    exact ⟨Frame.headerLength_of_marked, Frame.headerLength_of_not_marked,
      fun hband _ hlen ↦ Frame.tag?_of_truncated hband hlen⟩
  · intro other hbindings hcapacity hpeers
    exact transmit_congr hbindings hcapacity hpeers
  · intro tag channel payload hcall
    exact Tag.carries_iff.1 (fits_run hfresh steps _ hcall)

/-- Frames that are cut within an in-band tag, behind it and behind the header, and whole ones. With
a data session and a control session they come as far as each of the checks. -/
theorem decides_marked : ∃ device : Device (Recorded Testbed),
    init {} .zero (.fresh ⟨{}, {}⟩) = .ok device ∧
    let d := device.run ([.operate (.addSession 1), .operate (.addSession 257)].map .recorded)
    let marked (rest : Bytes) : Frame := ⟨none, List.replicate 12 2 ++ 0x81 :: 0x00 :: rest⟩
    d.transmit .ample (marked [0]) = (.ok .discarded, [], d) ∧
    d.transmit .ample (marked [0, 7]) =
      (.error (.headerError (.headerTooShort 16 18)), [], d) ∧
    d.transmit .ample (marked [0, 7, 8, 0]) = (.error (.unknownSession 7), [], d) ∧
    d.transmit .ample (marked [1, 1, 8, 0, 0x45]) =
      (.error (.protocolMismatch 257 .control .ipv4), [], d) ∧
    (d.transmit .ample (marked [0, 1, 8, 0, 0x45])).2.2.peers.calls =
      d.peers.calls ++ [.submit 1 (.ofNat 0) [0x45]] := by
  have h : init {} .zero (.fresh ⟨{}, {}⟩ : Recorded Testbed) = .ok _ := rfl
  refine ⟨_, h, ?_⟩
  intro d marked
  obtain ⟨hdecides, hheader, -, -⟩ :=
    decides_run h [.operate (.addSession 1), .operate (.addSession 257)]
  refine ⟨?_, ?_, ?_, ?_, ?_⟩
  · apply (hdecides .ample (marked [0])).discarded
    exact .inl ((hheader _).2.2 rfl (by decide) (by decide))
  · exact (hdecides .ample (marked [0, 7])).short 7 rfl (by decide) (by decide)
  · exact (hdecides .ample (marked [0, 7, 8, 0])).unknown 7 rfl (by decide) (by decide) (by decide)
  · apply (hdecides .ample (marked [1, 1, 8, 0, 0x45])).mismatch 257 rfl (by decide) (by decide)
    rw [← Tag.carries_eq_false_iff (by decide)]
    decide
  · have hs : ⟨0, 1, .ofNat 0, .runnable, .zero⟩ ∈ d.registry.sessions := by decide
    rw [(hdecides .ample (marked [0, 1, 8, 0, 0x45])).submitted _ hs rfl (by decide) _
      Memory.available_ample _ _ _ rfl]
    · rfl
    · rw [← Tag.carries_eq_false_iff (by decide)]
      decide

end Device

end ModemMux
