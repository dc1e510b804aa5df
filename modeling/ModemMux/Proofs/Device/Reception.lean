import ModemMux.Proofs.Device.Inbound
import ModemMux.Proofs.Registry.Outcome
import ModemMux.Testbed
import ModemMux.Trace

/-!
# What a device makes of a downlink buffer

A buffer without room for a header is refused, and then an id that is no session's. Of all other
buffers the header room is overwritten and the host is called once, whether or not there is a
session to count the packet for and whatever the host answers. `Device.receive_cases` says so byte
by byte and counter by counter.
-/

namespace ModemMux

/-- The two bytes that announce the content of a downlink buffer. They are those of no IP if the
buffer comes from a control channel, and else depend on the first four bits behind the header. -/
def announced (control : Bool) (buffer : Bytes) : Bytes :=
  if control then [0x00, 0x01]
  else if buffer[14]?.any (·.toNat / 16 = 4) then [0x08, 0x00]
  else if buffer[14]?.any (·.toNat / 16 = 6) then [0x86, 0xDD]
  else [0x00, 0x01]

/-- The two bytes that announce each kind of payload. -/
theorem PayloadClass.toBytes_etherType (c : PayloadClass) : Word.toBytes c.etherType =
    match c with
    | .ipv4 => [0x08, 0x00]
    | .ipv6 => [0x86, 0xDD]
    | .other => [0x00, 0x01] := by
  cases c <;> decide

/-- The kind of payload that a received frame announces is found as the host is told it. -/
theorem toBytes_downlinkClass (control : Bool) (buffer : Bytes) :
    Word.toBytes (downlinkClass control (buffer.drop Frame.plainHeader)).etherType =
      announced control buffer := by
  rw [PayloadClass.toBytes_etherType, announced]
  cases control with
  | true => rfl
  | false =>
    have hfirst : buffer[14]? = (buffer.drop Frame.plainHeader).head? := by
      simp [Frame.plainHeader]
    rw [hfirst]
    simp only [downlinkClass, Bool.false_eq_true, if_false]
    cases buffer.drop Frame.plainHeader with
    | nil => rfl
    | cons b rest =>
      simp only [PayloadClass.sniff, List.head?_cons, Option.any_some, decide_eq_true_eq]
      split_ifs <;> rfl

/-- A downlink packet is counted for the session with its tag and for the root device. -/
theorem Registry.count_downlink (tag : Tag) (bytes : UInt64) (r : Registry) :
    (r.count tag bytes .downlink).2 =
      if tag ∈ r.tags then
        { r with
          sessions := r.sessions.map fun s ↦
            if s.tag = tag then { s with counters := s.counters.record bytes .downlink } else s
          totals := r.totals.record bytes .downlink }
      else r := by
  split
  next hlive => simp [count_of_mem hlive, modify, Session.count]
  next hnew => rw [count_of_notMem hnew]

namespace Device

/-! ## The frame -/

section

variable {ω : Type} {d : Device ω} {tag : Tag} {buffer : Bytes} {control : Bool}

/-- The frame starts with the device's address and that of its peer, which differ in one bit. -/
theorem inbound_eq : d.inbound tag buffer control = ⟨some tag,
    d.mac.octets ++ (d.mac.octets.take 5 ++ [d.mac.o5 ^^^ 1]) ++ announced control buffer ++
      buffer.drop 14⟩ := by
  rw [← toBytes_downlinkClass]
  rfl

/-- A received frame is as long as the buffer that it came in. -/
theorem length_inbound (h : Frame.plainHeader ≤ buffer.length) :
    (d.inbound tag buffer control).length = buffer.length := by
  have h : 14 ≤ buffer.length := h
  simp only [Frame.length, inbound, Frame.ethernet, List.length_append, Mac.length_octets,
    Word.length_toBytes, List.length_drop, Frame.plainHeader]
  omega

end

/-! ## The outcome -/

section

variable {ω : Type} [HostStack ω] {d : Device ω} {id : SessionId} {buffer : Bytes} {control : Bool}

/-- A buffer without room for a header is refused, and nothing changes. -/
theorem receive_of_short (h : buffer.length < Frame.plainHeader) :
    d.receive id buffer control = (.error (.malformedFrame buffer.length), d) :=
  if_pos h

/-- An id that names no session is refused, and nothing changes. -/
theorem receive_of_not_names (hlen : Frame.plainHeader ≤ buffer.length) (hid : ¬Tag.Names id) :
    d.receive id buffer control = (.error (.invalidSessionId id), d) := by
  have hnone : (Tag.ofSession? id).filter (·.classify != .invalid) = none := by
    rw [Option.filter_eq_none_iff]
    intro tag htag
    simpa using mt (Tag.classify_ne_invalid_iff htag).1 hid
  rw [receive, if_neg (Nat.not_lt.2 hlen), hnone]

end

/-! ## The law -/

/-- What becomes of a downlink buffer, in any state of a device. A buffer without room for a header
is refused whatever its id, and then an id that is no session's; both change nothing. Any other
buffer is accepted. The host is called once with a frame that has the tag of the id beside it and is
as long as the buffer: the device's address, the same with its last bit flipped, the type and what
stood behind the header room. The packet is counted for a live session with the tag and for the root
device, or not at all if there is no such session, whatever the host makes of the frame. Nothing
else changes. -/
theorem receive_cases {ω : Type} [HostStack ω] (id : SessionId) (buffer : Bytes) (control : Bool)
    (d : Device (Recorded ω)) :
    let outcome := d.receive id buffer control
    let named := id.toNat + 1 ≤ 255 ∨ 257 ≤ id.toNat + 1 ∧ id.toNat + 1 ≤ 511
    let tag : Tag := .ofNat (id.toNat + 1)
    let frame : Frame := ⟨some tag, d.mac.octets ++ (d.mac.octets.take 5 ++ [d.mac.o5 ^^^ 1]) ++
      announced control buffer ++ buffer.drop 14⟩
    let packet (c : Counters) : Counters := { c with
      rxPackets := c.rxPackets + 1, rxBytes := c.rxBytes + .ofNat (buffer.length - 14) }
    (buffer.length < 14 → outcome = (.error (.malformedFrame buffer.length), d)) ∧
    (14 ≤ buffer.length → ¬named → outcome = (.error (.invalidSessionId id), d)) ∧
    (14 ≤ buffer.length → named → tag.toNat = id.toNat + 1 ∧ frame.length = buffer.length ∧
      ∀ verdict peers', HostStack.deliver frame d.peers.peers = (verdict, peers') →
        outcome = (.ok (), { d with
          registry := if tag ∈ d.registry.tags then
            { d.registry with
              sessions := d.registry.sessions.map fun s ↦
                if s.tag = tag then { s with counters := packet s.counters } else s
              totals := packet d.registry.totals }
          else d.registry
          peers := d.peers.note (.deliver frame verdict) peers' })) := by
  intro outcome named tag frame packet
  refine ⟨receive_of_short, receive_of_not_names, fun hlen hnamed ↦ ?_⟩
  have hid : Tag.ofSession? id = some tag := Tag.ofSession?_of_names hnamed
  have hclass : tag.classify ≠ .invalid := (Tag.classify_ne_invalid_iff hid).2 hnamed
  have hframe : d.inbound tag buffer control = frame := inbound_eq
  refine ⟨Tag.toNat_ofSession? hid, ?_, ?_⟩
  · rw [← hframe]
    exact length_inbound hlen
  · intro verdict peers' hdeliver
    change d.receive id buffer control = _
    rw [receive_eq_ok control hlen hid hclass, hframe, Recorded.deliver_eq hdeliver,
      Registry.count_downlink]
    rfl

/-- A device with the last control session, under a host that keeps nothing. -/
def overflowing : Device (Recorded Testbed) :=
  let registry := { Registry.empty 12 with sessions := [.fresh 0 511 (.ofNat 0)], issued := 1 }
  { blank {} .zero (.fresh ⟨{}, { limit := some 0 }⟩) with registry }

/-- A buffer may be too short by one byte, and an id too large by one or by far. The packet of the
session is counted though the host drops the frame. -/
theorem receive_overflowing :
    let buffer : Bytes := List.replicate 14 0xFF ++ [0x45]
    overflowing.receive 510 (buffer.take 13) true = (.error (.malformedFrame 13), overflowing) ∧
    (∀ id ∈ [255, 511, 0xFFFFFFFF],
      overflowing.receive id buffer true = (.error (.invalidSessionId id), overflowing)) ∧
    (overflowing.receive 510 buffer true).2.registry.totals = ⟨0, 0, 1, 1⟩ ∧
    (overflowing.receive 510 buffer true).2.peers.calls =
      [.deliver ⟨some 511, List.replicate 11 0 ++ [1, 0, 1, 0x45]⟩ .dropped] := by
  intro buffer
  refine ⟨?_, ?_, ?_⟩
  · exact (receive_cases 510 (buffer.take 13) true overflowing).1 (by decide)
  · intro id hid
    apply (receive_cases id buffer true overflowing).2.1 (by decide)
    simp only [List.mem_cons, List.not_mem_nil, or_false] at hid
    rcases hid with rfl | rfl | rfl <;> simp
  · obtain ⟨-, -, haccepted⟩ := receive_cases 510 buffer true overflowing
    obtain ⟨-, -, houtcome⟩ := haccepted (by decide) (by decide)
    rw [houtcome _ _ rfl]
    exact ⟨rfl, rfl⟩

end Device

end ModemMux
