import ModemMux.Device.Receive
import ModemMux.Proofs.Registry.Table

/-!
# The way of a frame to the host

`Device.Receives` lists what can become of a downlink buffer: it is refused and nothing changes, or
the host gets `Device.inbound`, a frame with its tag out of band. What stood in the buffer's header
room leaves no trace in that frame.
-/

namespace ModemMux

namespace Tag

/-- Whether an id is that of a tag which may be a session's. -/
def Names (id : SessionId) : Prop := id.toNat + 1 ≤ 255 ∨ 257 ≤ id.toNat + 1 ∧ id.toNat + 1 ≤ 511

/-- An id that names a session leads to the tag above it. -/
theorem ofSession?_of_names {id : SessionId} (h : Names id) :
    ofSession? id = some (.ofNat (id.toNat + 1)) := by
  refine ofSession?_of_le ?_
  rcases h with h | ⟨-, h⟩ <;> omega

/-- The tag of an id, where it has one, is the number above it. -/
theorem eq_of_ofSession? {id : SessionId} {tag : Tag} (hid : ofSession? id = some tag) :
    tag = .ofNat (id.toNat + 1) := by
  rw [← toNat_ofSession? hid, UInt16.ofNat_toNat]

/-- The tag of an id is one that a session may have if the id names one. -/
theorem classify_ne_invalid_iff {id : SessionId} {tag : Tag} (hid : ofSession? id = some tag) :
    tag.classify ≠ .invalid ↔ Names id := by
  have htag := toNat_ofSession? hid
  rw [Names, ← htag]
  grind [classify, dataEnd, controlStart, controlEnd]

end Tag

namespace Frame

variable {tag : Tag} {dst src : Mac} {etherType : UInt16} {payload : Bytes}

/-- In a buffer with room for a header, the header is written over that room. -/
theorem writeHeader_of_le {buffer : Bytes} (h : plainHeader ≤ buffer.length) (tag : Tag) :
    writeHeader dst src etherType buffer =
      .ok (ethernet tag dst src etherType (buffer.drop plainHeader)).data := by
  rw [writeHeader, if_neg (Nat.not_lt.2 h)]
  rfl

@[simp] theorem etherType?_ethernet :
    (ethernet tag dst src etherType payload).etherType? = some etherType :=
  congrArg some (Word.ofBytes_toBytes etherType)

/-- A frame whose type is not the VLAN mark has a plain header. -/
theorem headerLength_ethernet (h : etherType ≠ EtherType.vlan) :
    (ethernet tag dst src etherType payload).headerLength = plainHeader := by
  have hband : (ethernet tag dst src etherType payload).isInBand = false := by
    simpa [isInBand] using h
  rw [headerLength, hband, if_neg Bool.false_ne_true]

/-- A frame with its tag out of band is cut as it was put together, unless its type is that of an
in-band tag. -/
theorem split_ethernet (h : etherType ≠ EtherType.vlan) :
    (ethernet tag dst src etherType payload).split =
      .ok ⟨some tag, dst.octets ++ src.octets ++ Word.toBytes etherType, payload⟩ := by
  have hlength : plainHeader ≤ (ethernet tag dst src etherType payload).length := by
    simp only [length, ethernet, plainHeader, List.length_append, Mac.length_octets,
      Word.length_toBytes]
    omega
  rw [split, headerLength_ethernet h, if_neg (Nat.not_lt.2 hlength)]
  rfl

end Frame

namespace Device

variable {ω : Type} [HostStack ω] {d : Device ω}

omit [HostStack ω] in
/-- The frame that the host gets for a downlink buffer. -/
def inbound (tag : Tag) (buffer : Bytes) (control : Bool) (d : Device ω) : Frame :=
  let payload := buffer.drop Frame.plainHeader
  .ethernet tag d.mac d.mac.peer (downlinkClass control payload).etherType payload

/-- What can become of a downlink buffer. -/
inductive Receives (id : SessionId) (buffer : Bytes) (control : Bool) (d : Device ω) :
    Except MuxError Unit × Device ω → Prop
  | refused {e : MuxError} : Receives id buffer control d (.error e, d)
  /-- The frame reaches the host, and the packet is counted if the session is live. -/
  | received {tag : Tag} (hlen : Frame.plainHeader ≤ buffer.length)
      (hid : Tag.ofSession? id = some tag) :
      Receives id buffer control d (.ok (), { d with
        registry := (d.registry.count tag
          (UInt64.ofNat (buffer.length - Frame.plainHeader)) .downlink).2
        peers := (HostStack.deliver (d.inbound tag buffer control) d.peers).2 })

/-- Where the id leads to a valid tag and the buffer has room for a header, the frame is counted,
and delivered with that header. -/
theorem receive_eq_ok {id : SessionId} {buffer : Bytes} (control : Bool) {tag : Tag}
    (hlen : Frame.plainHeader ≤ buffer.length) (hid : Tag.ofSession? id = some tag)
    (hclass : tag.classify ≠ .invalid) :
    d.receive id buffer control = (.ok (), { d with
      registry := (d.registry.count tag
        (UInt64.ofNat (buffer.length - Frame.plainHeader)) .downlink).2
      peers := (HostStack.deliver (d.inbound tag buffer control) d.peers).2 }) := by
  have hfilter : (Tag.ofSession? id).filter (·.classify != .invalid) = some tag := by
    rw [hid, Option.filter_some, if_pos (by simpa using hclass)]
  rw [receive, if_neg (Nat.not_lt.2 hlen)]
  simp only [hfilter, Frame.writeHeader_of_le hlen tag, List.length_drop]
  rfl

theorem receives_receive (id : SessionId) (buffer : Bytes) (control : Bool) (d : Device ω) :
    Receives id buffer control d (d.receive id buffer control) := by
  by_cases hlen : Frame.plainHeader ≤ buffer.length
  · cases htag : (Tag.ofSession? id).filter (·.classify != .invalid) with
    | none =>
      simp only [receive, htag, if_neg (Nat.not_lt.2 hlen)]
      exact .refused
    | some tag =>
      obtain ⟨hid, hclass⟩ := Option.filter_eq_some_iff.1 htag
      rw [receive_eq_ok control hlen hid (by simpa using hclass)]
      exact .received hlen hid
  · rw [receive, if_pos (Nat.not_le.1 hlen)]
    exact .refused

end Device

end ModemMux
