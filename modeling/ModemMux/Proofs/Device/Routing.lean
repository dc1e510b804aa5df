import ModemMux.Proofs.Frame.Alignment
import ModemMux.Proofs.Frame.Header
import ModemMux.Proofs.Registry.Table

/-!
# The way of a frame

`Registry.Routes` lists what can become of a frame before the transport is asked, and
`Device.Transmits` what becomes of it altogether. What reaches the transport is the payload of the
frame as it is, realigned or not, and it goes to the channel of the session with the frame's tag.
-/

namespace ModemMux

variable {memory : Memory} {frame : Frame} {tag : Tag} {cut : Split} {channel : ChannelId}

/-! ## Routing -/

namespace Registry

variable {r : Registry}

/-- A channel is found for a tag if the two are bound to each other. -/
theorem Sound.channelOf?_eq_some_iff (h : r.Sound) :
    r.channelOf? tag = some channel ↔ (tag, channel) ∈ r.bindings := by
  rw [mem_bindings_iff, channelOf?]
  constructor
  · split
    next => simp
    next e he =>
      obtain ⟨hi, htag⟩ := h.lookup_eq_some_iff.1 he
      rw [Option.ite_none_right_eq_some, Option.some.injEq]
      rintro ⟨-, rfl⟩
      exact ⟨e.session, List.mem_of_getElem? hi, htag, rfl⟩
  · rintro ⟨s, hs, rfl, rfl⟩
    obtain ⟨i, hi⟩ := List.getElem?_of_mem hs
    have hlt : i < r.capacity :=
      Nat.lt_of_lt_of_le (List.getElem?_eq_some_iff.1 hi).1 h.length_le
    have he : r.lookup s.tag = some ⟨i, s⟩ := h.lookup_eq_some_iff.2 ⟨hi, rfl⟩
    rw [he]
    simp [hlt, h.isValid s hs]

/-- No channel is found for a tag that is not live, and for no other tag. -/
theorem Sound.channelOf?_eq_none_iff (h : r.Sound) : r.channelOf? tag = none ↔ tag ∉ r.tags := by
  rw [Option.eq_none_iff_forall_ne_some, mem_tags_iff]
  simp only [ne_eq, h.channelOf?_eq_some_iff, mem_bindings_iff]
  constructor
  · rintro hnone ⟨s, hs, htag⟩
    exact hnone s.channel ⟨s, hs, htag, rfl⟩
  · rintro hnone channel ⟨s, hs, htag, -⟩
    exact hnone ⟨s, hs, htag⟩

/-- What can become of a frame before the transport is asked. -/
inductive Routes (memory : Memory) (frame : Frame) (r : Registry) :
    Except MuxError (Option Routed) → Prop
  /-- Nothing takes frames without a tag or with that of the root device. -/
  | nowhere (htag : frame.tag? = none ∨ frame.tag? = some 0) : Routes memory frame r (.ok none)
  | short {tag : Tag} (htag : frame.tag? = some tag) (hne : tag ≠ 0)
      (hlen : frame.length < frame.headerLength) :
      Routes memory frame r
        (.error (.headerError (.headerTooShort frame.length frame.headerLength)))
  | unknown {tag : Tag} {cut : Split} (htag : frame.tag? = some tag) (hne : tag ≠ 0)
      (hcut : frame.split = .ok cut) (hs : r.channelOf? tag = none) :
      Routes memory frame r (.error (.unknownSession tag))
  | mismatch {tag : Tag} {cut : Split} {channel : ChannelId} (htag : frame.tag? = some tag)
      (hne : tag ≠ 0) (hcut : frame.split = .ok cut) (hs : r.channelOf? tag = some channel)
      (hcarry : tag.classify.carries cut.payloadClass = false) :
      Routes memory frame r (.error (.protocolMismatch tag tag.classify cut.payloadClass))
  | outOfMemory {tag : Tag} {cut : Split} {channel : ChannelId} {fault : FrameError}
      (htag : frame.tag? = some tag) (hne : tag ≠ 0) (hcut : frame.split = .ok cut)
      (hs : r.channelOf? tag = some channel) (hcarry : tag.classify.carries cut.payloadClass)
      (hover : cut.handOver memory tag.classify = .error (.outOfMemory fault)) :
      Routes memory frame r (.error (.outOfMemory fault))
  | routed {tag : Tag} {cut : Split} {channel : ChannelId} (htag : frame.tag? = some tag)
      (hne : tag ≠ 0) (hcut : frame.split = .ok cut) (hs : r.channelOf? tag = some channel)
      (hcarry : tag.classify.carries cut.payloadClass) :
      Routes memory frame r (.ok (some ⟨tag, channel, cut, cut.payload⟩))

theorem toNat_eq_zero_iff {tag : Tag} : tag.toNat = 0 ↔ tag = 0 := by
  rw [← UInt16.toNat_inj]
  rfl

/-- Every way in which routing can end is one of those listed. -/
theorem routes_route (memory : Memory) (frame : Frame) (r : Registry) :
    Routes memory frame r (r.route memory frame) := by
  unfold route
  split
  next htag => exact .nowhere (.inl htag)
  next tag htag =>
    split
    next hzero => exact .nowhere (.inr (htag.trans (congrArg some (toNat_eq_zero_iff.1 hzero))))
    next hzero =>
      have hne : tag ≠ 0 := fun h ↦ hzero (toNat_eq_zero_iff.2 h)
      split
      next fault hcut =>
        obtain ⟨hlen, rfl⟩ := Frame.split_eq_error_iff.1 hcut
        exact .short htag hne hlen
      next cut hcut =>
        split
        next hs => exact .unknown htag hne hcut hs
        next channel hs =>
          split
          next hcarry => exact .mismatch htag hne hcut hs hcarry
          next hcarry =>
            have hcarry : tag.classify.carries cut.payloadClass := by simpa using hcarry
            split
            next e hover =>
              obtain ⟨-, -, -, rfl⟩ := Split.handOver_eq_error_iff.1 hover
              exact .outOfMemory htag hne hcut hs hcarry hover
            next payload hover =>
              obtain rfl := Split.handOver_eq_ok hover
              exact .routed htag hne hcut hs hcarry

theorem route_of_handOver (htag : frame.tag? = some tag) (hne : tag ≠ 0)
    (hcut : frame.split = .ok cut) (hs : r.channelOf? tag = some channel)
    (hcarry : tag.classify.carries cut.payloadClass)
    (hover : cut.handOver memory tag.classify = .ok cut.payload) :
    r.route memory frame = .ok (some ⟨tag, channel, cut, cut.payload⟩) := by
  have hzero : tag.toNat ≠ 0 := fun h ↦ hne (toNat_eq_zero_iff.1 h)
  simp only [route, htag, hzero, if_false, hcut, hs, hcarry, Bool.true_eq_false, hover]

end Registry

/-! ## Transmitting -/

/-- What the host is told of a frame whose payload the transport was asked to take. -/
def Frame.told (tag : Tag) (f : Frame) : Except ChannelError Submission → Except MuxError TxStatus
  | .ok .accepted => .ok .sent
  | .ok (.retry payload) => .ok (.busy (f.withPayload payload))
  | .error source => .error (.io tag source.message)

theorem Routed.settle_of_available (h : memory.Available) (hcut : frame.split = .ok cut)
    (payload : Bytes) (answer : Except ChannelError Submission) :
    settle memory ⟨tag, channel, cut, payload⟩ answer = frame.told tag answer := by
  match answer with
  | .ok .accepted => rfl
  | .ok (.retry back) =>
    rw [settle, Split.reassemble_of_available h, Frame.join_of_split hcut]
    rfl
  | .error source => rfl

namespace Device

variable {ω : Type} [Transport ω] {d : Device ω}

/-- What can become of a frame. -/
inductive Transmits (memory : Memory) (frame : Frame) (d : Device ω) :
    Except MuxError TxStatus × List Signal × Device ω → Prop
  | discarded (htag : frame.tag? = none ∨ frame.tag? = some 0) :
      Transmits memory frame d (.ok .discarded, [], d)
  /-- The frame is refused before the transport is asked. -/
  | refused {e : MuxError} (he : ∀ tag reason, e ≠ .io tag reason) :
      Transmits memory frame d (.error e, [], d)
  /-- The transport is asked to take the payload. -/
  | submitted {tag : Tag} {cut : Split} {channel : ChannelId}
      {answer : Except ChannelError Submission} {signals : List Signal} {peers : ω}
      (htag : frame.tag? = some tag) (hne : tag ≠ 0) (hcut : frame.split = .ok cut)
      (hs : d.registry.channelOf? tag = some channel)
      (hcarry : tag.classify.carries cut.payloadClass)
      (hsubmit : Transport.submit tag channel cut.payload d.peers = (answer, signals, peers)) :
      Transmits memory frame d
        (Routed.settle memory ⟨tag, channel, cut, cut.payload⟩ answer, signals, { d with peers })

/-- Every way in which a transmission can end is one of those listed. -/
theorem transmits_transmit (memory : Memory) (frame : Frame) (d : Device ω) :
    Transmits memory frame d (d.transmit memory frame) := by
  have hroute := Registry.routes_route memory frame d.registry
  unfold transmit
  generalize d.registry.route memory frame = outcome at hroute
  cases hroute with
  | nowhere htag => exact .discarded htag
  | short | unknown | mismatch | outOfMemory => exact .refused (by simp)
  | routed htag hne hcut hs hcarry => exact .submitted htag hne hcut hs hcarry rfl

/-- A frame without a tag, or with that of the root device, is discarded. -/
theorem transmit_of_untagged (h : frame.tag? = none ∨ frame.tag? = some 0) :
    d.transmit memory frame = (.ok .discarded, [], d) := by
  rcases h with h | h <;> simp [transmit, Registry.route, h]

/-- A frame without a whole header is refused before its session is looked for. -/
theorem transmit_of_short (htag : frame.tag? = some tag) (hne : tag ≠ 0)
    (hlen : frame.length < frame.headerLength) : d.transmit memory frame =
      (.error (.headerError (.headerTooShort frame.length frame.headerLength)), [], d) := by
  have hzero : tag.toNat ≠ 0 := fun h ↦ hne (Registry.toNat_eq_zero_iff.1 h)
  simp only [transmit, Registry.route, htag, hzero, if_false, Frame.split, hlen, if_true]

/-- A frame under a tag without a session is an error, and nothing is asked for. -/
theorem transmit_of_unknown (htag : frame.tag? = some tag) (hne : tag ≠ 0)
    (hcut : frame.split = .ok cut) (hs : d.registry.channelOf? tag = none) :
    d.transmit memory frame = (.error (.unknownSession tag), [], d) := by
  have hzero : tag.toNat ≠ 0 := fun h ↦ hne (Registry.toNat_eq_zero_iff.1 h)
  simp only [transmit, Registry.route, htag, hzero, if_false, hcut, hs]

/-- A frame that its session does not carry is refused before the transport is asked. -/
theorem transmit_of_mismatch (htag : frame.tag? = some tag) (hne : tag ≠ 0)
    (hcut : frame.split = .ok cut) (hs : d.registry.channelOf? tag = some channel)
    (hcarry : tag.classify.carries cut.payloadClass = false) :
    d.transmit memory frame =
      (.error (.protocolMismatch tag tag.classify cut.payloadClass), [], d) := by
  have hzero : tag.toNat ≠ 0 := fun h ↦ hne (Registry.toNat_eq_zero_iff.1 h)
  simp only [transmit, Registry.route, htag, hzero, if_false, hcut, hs, hcarry, if_true]

/-- A frame for a live session that may carry it reaches the transport, if its payload can be handed
over. -/
theorem transmit_of_handOver (htag : frame.tag? = some tag) (hne : tag ≠ 0)
    (hcut : frame.split = .ok cut) (hs : d.registry.channelOf? tag = some channel)
    (hcarry : tag.classify.carries cut.payloadClass)
    (hover : cut.handOver memory tag.classify = .ok cut.payload) :
    d.transmit memory frame =
      (Routed.settle memory ⟨tag, channel, cut, cut.payload⟩
          (Transport.submit tag channel cut.payload d.peers).1,
        (Transport.submit tag channel cut.payload d.peers).2.1,
        { d with peers := (Transport.submit tag channel cut.payload d.peers).2.2 }) := by
  simp only [transmit, Registry.route_of_handOver htag hne hcut hs hcarry hover]

/-- With memory at hand any payload can be handed over. -/
theorem transmit_of_available (h : memory.Available) (htag : frame.tag? = some tag) (hne : tag ≠ 0)
    (hcut : frame.split = .ok cut) (hs : d.registry.channelOf? tag = some channel)
    (hcarry : tag.classify.carries cut.payloadClass) :
    d.transmit memory frame =
      (Routed.settle memory ⟨tag, channel, cut, cut.payload⟩
          (Transport.submit tag channel cut.payload d.peers).1,
        (Transport.submit tag channel cut.payload d.peers).2.1,
        { d with peers := (Transport.submit tag channel cut.payload d.peers).2.2 }) :=
  transmit_of_handOver htag hne hcut hs hcarry (Split.handOver_of_available h cut _)

end Device

end ModemMux
