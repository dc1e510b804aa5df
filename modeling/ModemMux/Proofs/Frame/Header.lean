import ModemMux.Frame.Alignment

/-!
# Link headers

How long the link header of a frame is can be told from two of its bytes (`Frame.Marked`). To cut a
frame after its header and to join the parts again are inverse to each other, on the frames that are
not shorter than their header and on the parts whose header is as long as its own bytes say
(`Split.Proper`). `Frame.split_eq_ok_iff` says both at once. No header that ends before its mark
would stand is proper, though it may be joined with a payload that completes the mark.
-/

namespace ModemMux

/-! ## The mark of an in-band tag -/

namespace Frame

variable {f : Frame}

/-- Whether the type of a frame is the mark of an in-band VLAN header. -/
def Marked (f : Frame) : Prop := f.data[12]? = some 0x81 ∧ f.data[13]? = some 0x00

instance (f : Frame) : Decidable f.Marked :=
  inferInstanceAs (Decidable (f.data[12]? = some 0x81 ∧ f.data[13]? = some 0x00))

/-- The program's test for an in-band header is the mark. -/
theorem isInBand_iff : f.isInBand ↔ f.Marked := by
  rw [isInBand, beq_iff_eq, etherType?, Word.at?_eq_some_iff]
  rfl

theorem headerLength_of_marked (h : f.Marked) : f.headerLength = 18 := by
  rw [headerLength, if_pos (isInBand_iff.2 h)]
  rfl

theorem headerLength_of_not_marked (h : ¬f.Marked) : f.headerLength = 14 := by
  rw [headerLength, if_neg (mt isInBand_iff.1 h)]
  rfl

/-- A frame that ends before an in-band tag would has at most the tag beside it. -/
theorem tag?_of_truncated (hband : f.vlanTag = none) (hlen : f.length < 16) : f.tag? = none := by
  have htci : Word.at? f.data plainHeader = none := Word.at?_eq_none_iff.2 hlen
  simp [tag?, hband, htci]

end Frame

/-! ## Cutting -/

namespace Frame

variable {f : Frame} {cut : Split}

def payload (f : Frame) : Bytes := f.data.drop f.headerLength

def withPayload (payload : Bytes) (f : Frame) : Frame :=
  ⟨f.vlanTag, f.data.take f.headerLength ++ payload⟩

@[simp] theorem withPayload_payload (f : Frame) : f.withPayload f.payload = f := by
  simp [withPayload, payload]

/-- A frame is cut unless it is shorter than its own header. -/
theorem split_eq_error_iff {fault : FrameError} : f.split = .error fault ↔
    f.length < f.headerLength ∧ fault = .headerTooShort f.length f.headerLength := by
  unfold split
  split
  next hlen => simp [hlen, eq_comm]
  next hlen => simp [hlen]

/-- The cut leaves the tag beside the frame and takes the bytes apart at the header's length. -/
theorem split_of_le (h : f.headerLength ≤ f.length) :
    f.split = .ok ⟨f.vlanTag, f.data.take f.headerLength, f.payload⟩ :=
  if_neg (Nat.not_lt.2 h)

/-- What is cut is long enough, and its parts are known. -/
theorem eq_of_split (h : f.split = .ok cut) :
    f.headerLength ≤ f.length ∧ cut = ⟨f.vlanTag, f.data.take f.headerLength, f.payload⟩ := by
  by_cases hlen : f.headerLength ≤ f.length
  · rw [split_of_le hlen] at h
    cases h
    exact ⟨hlen, rfl⟩
  · rw [split_eq_error_iff.2 ⟨Nat.not_le.1 hlen, rfl⟩] at h
    cases h

theorem payload_of_split (h : f.split = .ok cut) : cut.payload = f.payload := by
  obtain ⟨-, rfl⟩ := eq_of_split h
  rfl

/-- Another payload behind the header that was cut off makes the frame with that payload. -/
theorem join_of_split (h : f.split = .ok cut) (payload : Bytes) :
    cut.join payload = f.withPayload payload := by
  obtain ⟨-, rfl⟩ := eq_of_split h
  rfl

/-- What is cut off is as long as the frame says its header is. -/
theorem length_header_of_split (h : f.split = .ok cut) : cut.header.length = f.headerLength := by
  obtain ⟨hlen, rfl⟩ := eq_of_split h
  exact List.length_take_of_le hlen

end Frame

/-! ## Joining -/

namespace Split

variable {s : Split} {memory : Memory}

/-- Whether the header is as long as its own bytes say. -/
def Proper (s : Split) : Prop :=
  s.header.length = 14 ∧ ¬(s.header[12]? = some 0x81 ∧ s.header[13]? = some 0x00) ∨
    s.header.length = 18 ∧ s.header[12]? = some 0x81 ∧ s.header[13]? = some 0x00

/-- The mark of a whole header does not depend on the payload. -/
theorem marked_join_iff (h : 14 ≤ s.header.length) (payload : Bytes) :
    (s.join payload).Marked ↔ s.header[12]? = some 0x81 ∧ s.header[13]? = some 0x00 := by
  have hfirst : (s.header ++ payload)[12]? = s.header[12]? :=
    List.getElem?_append_left (by omega)
  have hsecond : (s.header ++ payload)[13]? = s.header[13]? :=
    List.getElem?_append_left (by omega)
  rw [Frame.Marked, join, hfirst, hsecond]

/-- A header is proper if and only if a frame that starts with it is cut right behind it. -/
theorem proper_iff_headerLength : s.Proper ↔ (s.join s.payload).headerLength = s.header.length := by
  constructor
  · rintro (⟨hlen, hplain⟩ | ⟨hlen, hmark⟩)
    · have hframe : ¬(s.join s.payload).Marked := by rwa [marked_join_iff (by omega)]
      rw [Frame.headerLength_of_not_marked hframe, hlen]
    · have hframe : (s.join s.payload).Marked := by rwa [marked_join_iff (by omega)]
      rw [Frame.headerLength_of_marked hframe, hlen]
  · intro hlen
    by_cases hframe : (s.join s.payload).Marked
    · rw [Frame.headerLength_of_marked hframe] at hlen
      exact .inr ⟨hlen.symm, (marked_join_iff (by omega) s.payload).1 hframe⟩
    · rw [Frame.headerLength_of_not_marked hframe] at hlen
      exact .inl ⟨hlen.symm, mt (marked_join_iff (by omega) s.payload).2 hframe⟩

/-- With memory at hand a header and a payload are always joined. -/
theorem reassemble_of_available (h : memory.Available) (s : Split) (payload : Bytes) :
    s.reassemble memory.place payload = .ok (s.join payload) := by
  unfold reassemble
  obtain ⟨region, hregion⟩ :=
    Option.isSome_iff_exists.1 (h (s.header.length + payload.length))
  rw [hregion]

end Split

/-- The parts of a frame are those proper ones that make it. -/
theorem Frame.split_eq_ok_iff {f : Frame} {s : Split} :
    f.split = .ok s ↔ s.Proper ∧ s.join s.payload = f := by
  rw [Split.proper_iff_headerLength]
  constructor
  · intro h
    have hjoin := Split.join_payload h
    exact ⟨by rw [hjoin, length_header_of_split h], hjoin⟩
  · rintro ⟨hlen, rfl⟩
    have hle : (s.join s.payload).headerLength ≤ (s.join s.payload).length := by
      rw [hlen]
      simp [length, Split.join]
    rw [split_of_le hle, payload, hlen]
    simp [Split.join]

/-- Cutting and joining undo each other, if there is memory to join in. A frame is not cut exactly
if it is shorter than its header, and the fault tells both lengths. The parts of any other frame
are all its bytes in their order, the header is of its length, and joined they are the frame again.
Parts of any origin come out of the cut as they went into the joint exactly if the header has 14
bytes and is not marked, or has 18 and is. -/
theorem split_reassemble {memory : Memory} (h : memory.Available) :
    (∀ f : Frame,
      (∀ fault, f.split = .error fault ↔
        f.length < f.headerLength ∧ fault = .headerTooShort f.length f.headerLength) ∧
      (f.headerLength ≤ f.length → ∃ s : Split, f.split = .ok s ∧
        s.header ++ s.payload = f.data ∧ s.header.length = f.headerLength ∧
        s.reassemble memory.place s.payload = .ok f)) ∧
    ∀ (vlanTag : Option Tag) (header payload : Bytes),
      let parts : Split := ⟨vlanTag, header, payload⟩
      let f : Frame := ⟨vlanTag, header ++ payload⟩
      let marked := header[12]? = some 0x81 ∧ header[13]? = some 0x00
      parts.reassemble memory.place payload = .ok f ∧
        (f.split = .ok parts ↔ header.length = 14 ∧ ¬marked ∨ header.length = 18 ∧ marked) := by
  constructor
  · intro f
    refine ⟨fun fault ↦ Frame.split_eq_error_iff, fun hlen ↦ ?_⟩
    have hcut := Frame.split_of_le hlen
    refine ⟨_, hcut, Split.header_append_payload hcut, Frame.length_header_of_split hcut, ?_⟩
    rw [Split.reassemble_of_available h, Split.join_payload hcut]
  · intro vlanTag header payload parts f marked
    refine ⟨Split.reassemble_of_available h parts payload, ?_⟩
    rw [Frame.split_eq_ok_iff]
    exact and_iff_left rfl

/-- A frame that ends within its in-band tag is not cut, and one without a payload is. A header of
twelve bytes takes its mark from the payload, so that another header comes out of the cut. -/
theorem split_reassemble_borrowed :
    let addresses : Bytes := List.replicate 12 2
    let rest : Bytes := [0x81, 0x00, 0, 7, 8, 0]
    let marked : Bytes := addresses ++ rest
    let parts : Split := ⟨none, addresses, rest⟩
    Memory.ample.Available ∧
    Frame.split ⟨none, marked.take 16⟩ = .error (.headerTooShort 16 18) ∧
    (∃ s : Split, Frame.split ⟨some 5, marked⟩ = .ok s ∧ s.header ++ s.payload = marked ∧
      s.reassemble Memory.ample.place s.payload = .ok ⟨some 5, marked⟩) ∧
    parts.reassemble Memory.ample.place rest = .ok ⟨none, marked⟩ ∧
    Frame.split ⟨none, marked⟩ ≠ .ok parts := by
  intro addresses rest marked parts
  obtain ⟨hcut, hjoin⟩ := split_reassemble Memory.available_ample
  obtain ⟨hwhole, hiff⟩ := hjoin none addresses rest
  refine ⟨Memory.available_ample, ?_, ?_, hwhole, mt hiff.1 (by decide)⟩
  · exact ((hcut ⟨none, marked.take 16⟩).1 _).2 ⟨by decide, rfl⟩
  · obtain ⟨s, hs, hdata, -, hframe⟩ := (hcut ⟨some 5, marked⟩).2 (by decide)
    exact ⟨s, hs, hdata, hframe⟩

end ModemMux
