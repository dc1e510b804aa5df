import ModemMux.Proofs.Device.Life
import ModemMux.Proofs.Device.Routing
import ModemMux.Trace

/-!
# Frames that are handed back

The ways to the host and to the modem share no code, only the layout of a frame. So what the one
writes the other must read as it was meant: of the types that are announced to the host none is the
mark of an in-band tag, the header is cut where it was written, and the first bits of the payload
decide on both ways. `Device.transmit_delivered` composes the two ways for the frame that the host
gets from a live session and hands back.
-/

namespace ModemMux

/-- Whether the first four bits of a payload are the version of an IP packet. -/
def StartsAsIp (payload : Bytes) : Prop := ∃ b ∈ payload.head?, b.toNat / 16 = 4 ∨ b.toNat / 16 = 6

/-- A payload is classed as IP if it starts as IP, in either version. -/
theorem PayloadClass.isIp_sniff_iff {payload : Bytes} :
    (sniff payload).isIp ↔ StartsAsIp payload := by
  cases payload with
  | nil => simp [sniff, isIp, StartsAsIp]
  | cons b rest =>
    simp only [sniff, StartsAsIp, List.head?_cons, Option.mem_some_iff, exists_eq_left']
    split
    next h => simp [isIp, h]
    next h =>
      split
      next h' => simp [isIp, h']
      next h' => simp [isIp, h, h']

namespace Tag

variable {tag : Tag}

/-- A session tag is reached from the id below it. -/
theorem ofSession?_eq_some {id : SessionId} (htag : tag.isSession)
    (hid : tag.toNat = id.toNat + 1) : ofSession? id = some tag := by
  obtain ⟨id', hid', hsession⟩ := exists_toSession? htag
  have heq : id = id' := by
    have := toNat_ofSession? hsession
    apply UInt32.toNat_inj.1
    omega
  rw [heq, hsession]

/-- Whether sessions with a tag do not carry a payload: data sessions carry IP alone, and control
sessions carry no IP. -/
def Mismatches (tag : Tag) (payload : Bytes) : Prop :=
  tag.classify = .data ∧ ¬StartsAsIp payload ∨ tag.classify = .control ∧ StartsAsIp payload

/-- A session tag refuses the payloads that are a mismatch for it, and those only. -/
theorem carries_eq_false_iff {payload : Bytes} (htag : tag.isSession) :
    tag.classify.carries (.sniff payload) = false ↔ tag.Mismatches payload := by
  rw [Mismatches, ← PayloadClass.isIp_sniff_iff]
  rcases isSession_iff.1 htag with hclass | hclass <;> simp [hclass, TagClass.carries]

end Tag

/-- Once a payload has reached the transport, a failure is one of the transfer. -/
theorem Routed.settle_eq_error {memory : Memory} {routed : Routed}
    {answer : Except ChannelError Submission} {e : MuxError}
    (h : routed.settle memory answer = .error e) : ∃ reason, e = .io routed.tag reason := by
  unfold settle at h
  split at h
  · cases h
  · split at h
    · cases h
    · cases h
      exact ⟨_, rfl⟩
  · cases h
    exact ⟨_, rfl⟩

namespace Device

/-! ## The frame -/

section

variable {ω : Type} {d : Device ω} {tag : Tag} {buffer : Bytes} {control : Bool}

/-- A frame that was received has a plain header: its tag is beside it, not in it. -/
theorem headerLength_inbound : (d.inbound tag buffer control).headerLength = Frame.plainHeader :=
  Frame.headerLength_ethernet (PayloadClass.etherType_ne_vlan _)

/-- The frame is cut where the buffer's header room ended. -/
theorem exists_split_inbound : ∃ cut, (d.inbound tag buffer control).split = .ok cut ∧
    cut.payload = buffer.drop Frame.plainHeader :=
  ⟨_, Frame.split_ethernet (PayloadClass.etherType_ne_vlan _), rfl⟩

/-- A frame that was received carries what stood behind the room for the header. -/
theorem payload_inbound :
    (d.inbound tag buffer control).payload = buffer.drop Frame.plainHeader := by
  obtain ⟨cut, hcut, hpayload⟩ : ∃ cut, (d.inbound tag buffer control).split = .ok cut ∧
      cut.payload = buffer.drop Frame.plainHeader := exists_split_inbound
  rw [← Frame.payload_of_split hcut, hpayload]

end

/-! ## The way back -/

variable {ω : Type} [Transport ω] {memory : Memory} {tag : Tag} {channel : ChannelId}
  {d now : Device (Recorded ω)} {buffer : Bytes} {control : Bool}

/-- What becomes of the frame if the host hands it back while the session has a channel. -/
theorem transmit_inbound (hnow : now.registry.Sound) (hb : (tag, channel) ∈ now.registry.bindings)
    (hmemory : memory.Available) :
    let frame := d.inbound tag buffer control
    let payload := buffer.drop Frame.plainHeader
    (tag.Mismatches payload → now.transmit memory frame =
      (.error (.protocolMismatch tag tag.classify (.sniff payload)), [], now)) ∧
    (¬tag.Mismatches payload →
      (∀ tag' tagClass content,
        (now.transmit memory frame).1 ≠ .error (.protocolMismatch tag' tagClass content)) ∧
      (now.transmit memory frame).2.2.peers.calls =
        now.peers.calls ++ [.submit tag channel payload]) := by
  intro frame payload
  obtain ⟨s, hs, rfl, rfl⟩ := Registry.mem_bindings_iff.1 hb
  have htag : frame.tag? = some s.tag := rfl
  have hsession : s.tag.isSession := hnow.isSession s hs
  have hne : s.tag ≠ 0 := Tag.ne_zero_of_isSession hsession
  have hchannel := hnow.channelOf?_eq_some_iff.2 hb
  obtain ⟨cut, hcut, hpayload⟩ : ∃ cut, frame.split = .ok cut ∧ cut.payload = payload :=
    exists_split_inbound
  have hclass : cut.payloadClass = .sniff payload := by rw [Split.payloadClass, hpayload]
  rw [← Tag.carries_eq_false_iff hsession, ← hclass]
  refine ⟨fun hcarry ↦ transmit_of_mismatch htag hne hcut hchannel hcarry, fun hcarry ↦ ?_⟩
  rw [transmit_of_available hmemory htag hne hcut hchannel (by simpa using hcarry), hpayload]
  refine ⟨fun tag' tagClass content herror ↦ ?_, rfl⟩
  obtain ⟨reason, hio⟩ := Routed.settle_eq_error herror
  cases hio

variable [HostStack ω] {config : Config} {spare : Mac} {peers : Recorded ω}
  {device : Device (Recorded ω)}

/-- A buffer that is received for a live session reaches the host as one frame, whatever stood in
its header room. That frame is read under the session's tag, with a plain header and the rest of the
buffer as its payload. If the host hands it back, before or after it was counted and with memory at
hand, it is a mismatch if and only if the session does not carry such a payload; otherwise the
transport is called once, with the session's tag and channel and that payload. -/
theorem transmit_delivered (h : init config spare peers = .ok device)
    (steps : List (Step (Recorded ω))) {s : Session}
    (hs : s ∈ (device.run steps).registry.sessions) {id : SessionId}
    (hid : s.tag.toNat = id.toNat + 1) (hlen : Frame.plainHeader ≤ buffer.length) (control : Bool)
    (hmemory : memory.Available) :
    let d := device.run steps
    let d' := (d.receive id buffer control).2
    let payload := buffer.drop Frame.plainHeader
    ∃ frame verdict, d'.peers.calls = d.peers.calls ++ [.deliver frame verdict] ∧
      frame.tag? = some s.tag ∧ frame.headerLength = Frame.plainHeader ∧ frame.payload = payload ∧
      ∀ now, now = d ∨ now = d' →
        (s.tag.Mismatches payload → now.transmit memory frame =
          (.error (.protocolMismatch s.tag s.tag.classify (.sniff payload)), [], now)) ∧
        (¬s.tag.Mismatches payload →
          (∀ tag tagClass content,
            (now.transmit memory frame).1 ≠ .error (.protocolMismatch tag tagClass content)) ∧
          (now.transmit memory frame).2.2.peers.calls =
            now.peers.calls ++ [.submit s.tag s.channel payload]) := by
  intro d d' payload
  have hsound : d.registry.Sound := (sound_run h steps).1
  have hsession := hsound.isSession s hs
  have hclass : s.tag.classify ≠ .invalid := by
    rcases Tag.isSession_iff.1 hsession with hclass | hclass <;> simp [hclass]
  have hreceive := receive_eq_ok (d := d) control hlen
    (Tag.ofSession?_eq_some hsession hid) hclass
  have hb : (s.tag, s.channel) ∈ d.registry.bindings :=
    Registry.mem_bindings_iff.2 ⟨s, hs, rfl, rfl⟩
  refine ⟨d.inbound s.tag buffer control, (HostStack.deliver (d.inbound s.tag buffer control)
    d.peers.peers).1, ?_, rfl, headerLength_inbound, payload_inbound, fun now hnow ↦ ?_⟩
  · simp only [d', hreceive]
    rfl
  · rcases hnow with rfl | rfl
    · exact transmit_inbound hsound hb hmemory
    · have hcounted := counted_receive (d := d) id buffer control
      exact transmit_inbound (hcounted.sound hsound) (hcounted.bindings_eq ▸ hb) hmemory

/-- A buffer whose header room ends in what would be the mark of an in-band tag. -/
def misleading : Bytes := List.replicate 12 0xFF ++ [0x81, 0x00, 0x45, 7]

/-- Its packet goes to the channel of the session it came from. -/
theorem transmit_misleading : ∃ device : Device (Recorded Testbed),
    init {} .zero (.fresh ⟨{}, {}⟩) = .ok device ∧
    let d := device.run [.operate (.addSession 1)]
    let d' := (d.receive 0 misleading false).2
    ⟨0, 1, .ofNat 0, .runnable, .zero⟩ ∈ d.registry.sessions ∧
    Frame.plainHeader ≤ misleading.length ∧ Memory.ample.Available ∧
    ∃ frame verdict, d'.peers.calls = d.peers.calls ++ [.deliver frame verdict] ∧
      (d'.transmit .ample frame).2.2.peers.calls =
        d'.peers.calls ++ [.submit 1 (.ofNat 0) [0x45, 7]] := by
  have h : init {} .zero (.fresh ⟨{}, {}⟩ : Recorded Testbed) = .ok _ := rfl
  refine ⟨_, h, ?_⟩
  intro d d'
  have hs : ⟨0, 1, .ofNat 0, .runnable, .zero⟩ ∈ d.registry.sessions := by decide
  have hid : (1 : Tag).toNat = (0 : SessionId).toNat + 1 := rfl
  have hlen : Frame.plainHeader ≤ misleading.length := by decide
  obtain ⟨frame, verdict, hcalls, -, -, -, hback⟩ :=
    transmit_delivered h [.operate (.addSession 1)] hs hid hlen false Memory.available_ample
  obtain ⟨-, hmatch⟩ := hback d' (.inr rfl)
  refine ⟨hs, hlen, Memory.available_ample, frame, verdict, hcalls, (hmatch ?_).2⟩
  rw [← Tag.carries_eq_false_iff (by decide)]
  decide

end Device

end ModemMux
