import ModemMux.Proofs.Device.Calls
import ModemMux.Testbed

/-!
# Two ways to carry a tag

A device looks at nothing of a frame but its tag and its payload. So two ways to put a header before
a payload (`Frame.Wraps`) are as good as each other if the headers name the same tag
(`Device.alike_transmit`), and in particular a tag does the same inside a frame and beside it.
-/

namespace ModemMux

namespace Frame

variable {tag : Tag} {dst src : Mac} {etherType : UInt16} {payload : Bytes}

/-- Whether `build` puts the same header, which names the tag, before any payload. -/
def Wraps (tag : Tag) (build : Bytes → Frame) : Prop :=
  ∃ vlanTag header, ∀ payload, (build payload).tag? = some tag ∧
    (build payload).split = .ok ⟨vlanTag, header, payload⟩

namespace Wraps

variable {build : Bytes → Frame}

/-- The tag is read back from a frame that was built with it. -/
theorem tag?_eq (h : Wraps tag build) (payload : Bytes) : (build payload).tag? = some tag := by
  obtain ⟨vlanTag, header, h⟩ := h
  exact (h payload).1

/-- A frame that was built can be cut, and gives its payload back. -/
theorem exists_split (h : Wraps tag build) (payload : Bytes) :
    ∃ cut, (build payload).split = .ok cut ∧ cut.payload = payload := by
  obtain ⟨vlanTag, header, h⟩ := h
  exact ⟨_, (h payload).2, rfl⟩

/-- The payload stands in the frame, behind the header. -/
theorem payload_eq (h : Wraps tag build) (payload : Bytes) :
    (build payload).headerLength ≤ (build payload).length ∧ (build payload).payload = payload := by
  obtain ⟨cut, hcut, hpayload⟩ := h.exists_split payload
  refine ⟨?_, by rw [← payload_of_split hcut, hpayload]⟩
  by_contra hlen
  rw [split, if_pos (Nat.not_le.1 hlen)] at hcut
  cases hcut

/-- Another payload behind the header of a frame makes the frame that is built around it. -/
theorem withPayload (h : Wraps tag build) (payload back : Bytes) :
    (build payload).withPayload back = build back := by
  obtain ⟨vlanTag, header, h⟩ := h
  rw [← join_of_split (h payload).2]
  exact Split.join_payload (h back).2

/-- Frames with different payloads are different. -/
theorem injective (h : Wraps tag build) : Function.Injective build := by
  intro payload payload' heq
  have hpayload := (h.payload_eq payload).2
  rw [heq, (h.payload_eq payload').2] at hpayload
  exact hpayload.symm

end Wraps

/-! ## The tag inside -/

theorem isInBand_vlan : (vlan tag dst src etherType payload).isInBand := by
  have htype : (vlan tag dst src etherType payload).etherType? = some EtherType.vlan :=
    congrArg some (Word.ofBytes_toBytes EtherType.vlan)
  rw [isInBand, htype]
  rfl

/-- The header has room for twelve bits of the tag. -/
theorem tag?_vlan : (vlan tag dst src etherType payload).tag? = some (tag % 4096) := by
  have htci : Word.at? (vlan tag dst src etherType payload).data plainHeader =
      some (tag % 4096) :=
    congrArg some (Word.ofBytes_toBytes (tag % 4096))
  have hmask : tag % 4096 % 4096 = tag % 4096 := by
    apply UInt16.toNat_inj.1
    simp
  have hband : (vlan tag dst src etherType payload).vlanTag = none := rfl
  rw [tag?, hband, htci]
  simp only [isInBand_vlan, if_true, Option.map_some, vlanIds, hmask]

/-- Cutting a frame with a mark in band leaves the whole header in front of the payload. -/
theorem split_vlan : (vlan tag dst src etherType payload).split = .ok ⟨none,
    dst.octets ++ src.octets ++ Word.toBytes EtherType.vlan ++ Word.toBytes (tag % 4096) ++
      Word.toBytes etherType, payload⟩ := by
  have hheader : (vlan tag dst src etherType payload).headerLength = 18 := by
    rw [headerLength, if_pos isInBand_vlan]
    rfl
  have hlength : 18 ≤ (vlan tag dst src etherType payload).length := by
    simp only [length, vlan, List.length_append, Mac.length_octets, Word.length_toBytes]
    omega
  rw [split, hheader, if_neg (Nat.not_lt.2 hlength)]
  rfl

/-- A mark in band wraps a payload under the lower twelve bits of the tag. -/
theorem wraps_vlan : Wraps (tag % 4096) (vlan tag dst src etherType) :=
  ⟨none, _, fun _ ↦ ⟨tag?_vlan, split_vlan⟩⟩

/-- A plain frame wraps a payload under the tag beside it, unless its type is the VLAN mark. -/
theorem wraps_ethernet (h : etherType ≠ EtherType.vlan) :
    Wraps tag (ethernet tag dst src etherType) :=
  ⟨some tag, _, fun _ ↦ ⟨rfl, split_ethernet h⟩⟩

end Frame

namespace Device

variable {ω : Type} [Transport ω]

/-- The outcomes of a payload that is sent in two frames, each time to the same device, with the
signals and the device that follow on either. Both times the transport is not called, or it is
called once and alike. The outcomes are the same but that each sender gets back a frame of its own
kind. -/
inductive Alike (tag : Tag) (build build' : Bytes → Frame) (payload : Bytes)
    (d : Device (Recorded ω)) : Except MuxError TxStatus → Except MuxError TxStatus →
      List Signal × Device (Recorded ω) → Prop
  | discarded : Alike tag build build' payload d (.ok .discarded) (.ok .discarded) ([], d)
  | refused (e : MuxError) : Alike tag build build' payload d (.error e) (.error e) ([], d)
  | sent {channel : ChannelId} {signals : List Signal} {peers' : ω}
      (hsubmit : Transport.submit tag channel payload d.peers.peers =
        (.ok .accepted, signals, peers')) :
      Alike tag build build' payload d (.ok .sent) (.ok .sent)
        (signals, { d with peers := d.peers.note (.submit tag channel payload) peers' })
  /-- What the transport hands back is put into a frame again. If that is the payload, either frame
  comes back as it was. -/
  | busy {channel : ChannelId} {back : Bytes} {signals : List Signal} {peers' : ω}
      (hsubmit : Transport.submit tag channel payload d.peers.peers =
        (.ok (.retry back), signals, peers')) :
      Alike tag build build' payload d (.ok (.busy (build back))) (.ok (.busy (build' back)))
        (signals, { d with peers := d.peers.note (.submit tag channel payload) peers' })
  | failed {channel : ChannelId} {source : ChannelError} {signals : List Signal} {peers' : ω}
      (hsubmit : Transport.submit tag channel payload d.peers.peers =
        (.error source, signals, peers')) :
      Alike tag build build' payload d (.error (.io tag source.message))
        (.error (.io tag source.message))
        (signals, { d with peers := d.peers.note (.submit tag channel payload) peers' })

variable {memory memory' : Memory} {tag : Tag} {build build' : Bytes → Frame} {payload : Bytes}
  {d : Device (Recorded ω)} {channel : ChannelId}

/-- Under a tag without a session a payload is refused, however it was wrapped. -/
theorem transmit_unknown_of_wraps (hbuild : Frame.Wraps tag build) (hne : tag ≠ 0)
    (hs : d.registry.channelOf? tag = none) :
    d.transmit memory (build payload) = (.error (.unknownSession tag), [], d) := by
  obtain ⟨cut, hcut, rfl⟩ := hbuild.exists_split payload
  exact transmit_of_unknown (hbuild.tag?_eq _) hne hcut hs

/-- A payload that its tag does not carry is refused, however it was wrapped. -/
theorem transmit_mismatch_of_wraps (hbuild : Frame.Wraps tag build) (hne : tag ≠ 0)
    (hs : d.registry.channelOf? tag = some channel)
    (hcarry : tag.classify.carries (.sniff payload) = false) :
    d.transmit memory (build payload) =
      (.error (.protocolMismatch tag tag.classify (.sniff payload)), [], d) := by
  obtain ⟨cut, hcut, rfl⟩ := hbuild.exists_split payload
  exact transmit_of_mismatch (hbuild.tag?_eq _) hne hcut hs hcarry

/-- A payload that is submitted is answered for by the transport, however it was wrapped. -/
theorem transmit_told_of_wraps (hmemory : memory.Available)
    (hbuild : Frame.Wraps tag build) (hne : tag ≠ 0)
    (hs : d.registry.channelOf? tag = some channel)
    (hcarry : tag.classify.carries (.sniff payload))
    {answer : Except ChannelError Submission} {signals : List Signal} {peers' : ω}
    (hsubmit : Transport.submit tag channel payload d.peers.peers = (answer, signals, peers')) :
    d.transmit memory (build payload) = ((build payload).told tag answer, signals,
      { d with peers := d.peers.note (.submit tag channel payload) peers' }) := by
  obtain ⟨hlen, hpayload⟩ := hbuild.payload_eq payload
  rw [← hpayload] at hcarry hsubmit
  rw [transmit_eq_told hmemory (hbuild.tag?_eq payload) hne hlen hs hcarry hsubmit, hpayload]

/-- A device treats alike what is built alike. -/
theorem alike_transmit (hmemory : memory.Available) (hmemory' : memory'.Available)
    (hbuild : Frame.Wraps tag build) (hbuild' : Frame.Wraps tag build') (payload : Bytes)
    (d : Device (Recorded ω)) :
    (d.transmit memory (build payload)).2 = (d.transmit memory' (build' payload)).2 ∧
    Alike tag build build' payload d (d.transmit memory (build payload)).1
      (d.transmit memory' (build' payload)).1 (d.transmit memory (build payload)).2 := by
  by_cases hzero : tag = 0
  · subst hzero
    rw [transmit_of_untagged (.inr (hbuild.tag?_eq payload)),
      transmit_of_untagged (.inr (hbuild'.tag?_eq payload))]
    exact ⟨rfl, .discarded⟩
  · cases hs : d.registry.channelOf? tag with
    | none =>
      rw [transmit_unknown_of_wraps hbuild hzero hs, transmit_unknown_of_wraps hbuild' hzero hs]
      exact ⟨rfl, .refused _⟩
    | some channel =>
      cases hcarry : tag.classify.carries (.sniff payload) with
      | false =>
        rw [transmit_mismatch_of_wraps hbuild hzero hs hcarry,
          transmit_mismatch_of_wraps hbuild' hzero hs hcarry]
        exact ⟨rfl, .refused _⟩
      | true =>
        obtain ⟨answer, signals, peers', hsubmit⟩ : ∃ answer signals peers',
            Transport.submit tag channel payload d.peers.peers = (answer, signals, peers') :=
          ⟨_, _, _, rfl⟩
        rw [transmit_told_of_wraps hmemory hbuild hzero hs hcarry hsubmit,
          transmit_told_of_wraps hmemory' hbuild' hzero hs hcarry hsubmit]
        refine ⟨rfl, ?_⟩
        match answer with
        | .ok .accepted => exact .sent hsubmit
        | .ok (.retry back) =>
          simp only [Frame.told, hbuild.withPayload, hbuild'.withPayload]
          exact .busy hsubmit
        | .error source => exact .failed hsubmit

/-- If the one sender gets its own frame back, so does the other. -/
theorem Alike.busy_iff {outcome outcome' : Except MuxError TxStatus}
    {after : List Signal × Device (Recorded ω)}
    (h : Alike tag build build' payload d outcome outcome' after)
    (hbuild : Frame.Wraps tag build) (hbuild' : Frame.Wraps tag build') :
    outcome = .ok (.busy (build payload)) ↔ outcome' = .ok (.busy (build' payload)) := by
  cases h with
  | busy => simp [hbuild.injective.eq_iff, hbuild'.injective.eq_iff]
  | discarded | refused | sent | failed => simp

/-- A frame with its tag inside is as good as one with the lower twelve bits of the tag beside it,
whatever types they have, unless the type of the latter is the mark of a tag inside. In any state of
a device, over any transport and wherever the frames lie in memory, they come to the same end: the
transport is called for neither or for both alike, the outcomes are the same, and so is what they
leave behind. What the transport hands back comes back in a frame of the same kind, so that one
sender gets its own frame if and only if the other does. Both frames are for the same transmit
queue, and the payload is what is left of either without its header. -/
theorem transmit_vlan_ethernet (hmemory : memory.Available) (hmemory' : memory'.Available)
    {outer : UInt16} (houter : outer ≠ EtherType.vlan) (tag : Tag) (dst src : Mac)
    (inner : UInt16) (payload : Bytes) (d : Device (Recorded ω)) :
    let inside := Frame.vlan tag dst src inner
    let beside := Frame.ethernet (tag % 4096) dst src outer
    let outcome := d.transmit memory (inside payload)
    let outcome' := d.transmit memory' (beside payload)
    outcome.2 = outcome'.2 ∧
    Alike (tag % 4096) inside beside payload d outcome.1 outcome'.1 outcome.2 ∧
    (outcome.1 = .ok (.busy (inside payload)) ↔ outcome'.1 = .ok (.busy (beside payload))) ∧
    d.selectQueue (inside payload) = d.selectQueue (beside payload) ∧
    (∃ cut, (inside payload).split = .ok cut ∧ cut.payload = payload) ∧
    ∃ cut, (beside payload).split = .ok cut ∧ cut.payload = payload := by
  intro inside beside outcome outcome'
  have hinside : Frame.Wraps (tag % 4096) inside := Frame.wraps_vlan
  have hbeside : Frame.Wraps (tag % 4096) beside := Frame.wraps_ethernet houter
  obtain ⟨hafter, halike⟩ := alike_transmit hmemory hmemory' hinside hbeside payload d
  refine ⟨hafter, halike, halike.busy_iff hinside hbeside, ?_, hinside.exists_split payload,
    hbeside.exists_split payload⟩
  rw [selectQueue, selectQueue, hinside.tag?_eq, hbeside.tag?_eq]

/-- A device with a control session over a modem that keeps one payload a channel, and a payload in
that channel. -/
def congested : Device (Recorded Testbed) :=
  let d : Device (Recorded Testbed) :=
    blank {} .zero (.fresh ⟨{ config := { queueDepth := some 1 } }, {}⟩)
  ((d.addSession 257).2.transmit .ample (.ethernet 257 .zero .zero 0x0001 [0x11])).2.2

/-- The tag inside loses its highest bits and is then that of the session. Each frame comes back as
it was, though the header of the first ends in what looks like a second mark. -/
theorem transmit_congested :
    let memory : Memory := { Memory.ample with frameStart := 2 }
    let inside := Frame.vlan 4353 .zero .zero EtherType.vlan [0x22]
    let beside := Frame.ethernet 257 .zero .zero 0x0800 [0x22]
    Memory.ample.Available ∧ memory.Available ∧ (0x0800 : UInt16) ≠ EtherType.vlan ∧
    (congested.transmit .ample inside).1 = .ok (.busy inside) ∧
    (congested.transmit memory beside).1 = .ok (.busy beside) ∧
    (congested.transmit .ample inside).2 = (congested.transmit memory beside).2 := by
  intro memory inside beside
  have hmemory : memory.Available := fun _ ↦ rfl
  have hplain : (0x0800 : UInt16) ≠ EtherType.vlan := by decide
  obtain ⟨hafter, -, hbusy, -⟩ := transmit_vlan_ethernet Memory.available_ample hmemory hplain
    4353 .zero .zero EtherType.vlan [0x22] congested
  have hinside : (congested.transmit .ample inside).1 = .ok (.busy inside) := by decide
  exact ⟨Memory.available_ample, hmemory, hplain, hinside, hbusy.1 hinside, hafter⟩

end Device

end ModemMux
