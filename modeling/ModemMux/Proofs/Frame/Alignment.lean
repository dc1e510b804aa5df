import Mathlib.Order.Bounds.Basic
import ModemMux.Device.Transmit

/-!
# Where an aligned payload lies

`Buffer.Aligns` lists what can become of a payload that is to be aligned: it stays, it moves to the
first aligned address of a fresh region, or there is no such region. The region is asked for before
its address is known, so it has room for the greatest padding there is (`Buffer.padding_le`). Hence
neither of the two writes that fill it moves it elsewhere (`Filling.append_padding`,
`Filling.append_payload`), and what the padding was reckoned for stays true. `Buffer.align_placed`
says all this of a payload and an allocator.
-/

namespace ModemMux

variable {place : Allocator} {payload : Bytes}

namespace Buffer

/-! ## Padding -/

/-- No smaller number of bytes leads to a multiple of four. -/
theorem isLeast_padding (address : Nat) : IsLeast {n | 4 ∣ address + n} (padding address) := by
  constructor
  · exact Nat.dvd_of_mod_eq_zero (add_padding_mod address)
  · intro n hn
    have hmod : (address + n) % 4 = 0 := Nat.mod_eq_zero_of_dvd hn
    unfold padding alignment
    omega

theorem isAligned_iff {b : Buffer} : b.isAligned ↔ 4 ∣ b.start := by
  rw [Nat.dvd_iff_mod_eq_zero, isAligned, decide_eq_true_eq]
  rfl

end Buffer

/-! ## Filling a region -/

namespace Filling

open Buffer

variable {region : Region}

/-- The padding is written where the region is. -/
theorem append_padding (place : Allocator) (hroom : payload.length + 3 ≤ region.capacity) :
    (empty region).append place (List.replicate (padding region.start) 0) =
      some ⟨region, List.replicate (padding region.start) 0⟩ := by
  have hpad : padding region.start ≤ 3 := padding_le region.start
  refine append_of_le place ?_
  simp only [empty, List.length_nil, List.length_replicate]
  omega

/-- The payload is written behind the padding, where the region is. -/
theorem append_payload (place : Allocator) (hroom : payload.length + 3 ≤ region.capacity) :
    append place ⟨region, List.replicate (padding region.start) 0⟩ payload =
      some ⟨region, List.replicate (padding region.start) 0 ++ payload⟩ := by
  have hpad : padding region.start ≤ 3 := padding_le region.start
  refine append_of_le place ?_
  simp only [List.length_replicate]
  omega

end Filling

/-! ## Aligning -/

namespace Buffer

variable {b b' : Buffer}

/-- A payload that lies well stays, whatever the allocator would say. -/
theorem align_of_dvd (place : Allocator) (hstart : 4 ∣ b.start) : align place b = .ok b := by
  rw [align, if_pos (isAligned_iff.2 hstart)]

/-- A payload that lies badly is found behind the padding of the region that is granted. -/
theorem align_of_region {region : { r : Region // b.bytes.length + 3 ≤ r.capacity }}
    (hstart : ¬4 ∣ b.start) (hplace : place (b.bytes.length + 3) = some region) :
    align place b = .ok ⟨region.1.start + padding region.1.start, b.bytes⟩ := by
  have hplace : place (b.bytes.length + (alignment - 1)) = some region := hplace
  rw [align, if_neg (mt isAligned_iff.1 hstart), copyAligned_eq, hplace]
  rfl

/-- Without a region there is no aligned payload, and the fault names the size that was asked for.
-/
theorem align_of_refusal (hstart : ¬4 ∣ b.start) (hplace : place (b.bytes.length + 3) = none) :
    align place b = .error (.outOfMemory (b.bytes.length + 3)) := by
  have hplace : place (b.bytes.length + (alignment - 1)) = none := hplace
  rw [align, if_neg (mt isAligned_iff.1 hstart), copyAligned_eq, hplace]
  rfl

/-- What can become of a payload that is to be aligned. -/
inductive Aligns (place : Allocator) (b : Buffer) : Except FrameError Buffer → Prop where
  | kept (hstart : 4 ∣ b.start) : Aligns place b (.ok b)
  | moved {region : { r : Region // b.bytes.length + 3 ≤ r.capacity }} (hstart : ¬4 ∣ b.start)
      (hplace : place (b.bytes.length + 3) = some region) :
      Aligns place b (.ok ⟨region.1.start + padding region.1.start, b.bytes⟩)
  | refused (hstart : ¬4 ∣ b.start) (hplace : place (b.bytes.length + 3) = none) :
      Aligns place b (.error (.outOfMemory (b.bytes.length + 3)))

/-- The cases of `Aligns` cover all that can happen. -/
theorem aligns_align (place : Allocator) (b : Buffer) : Aligns place b (align place b) := by
  by_cases hstart : 4 ∣ b.start
  · rw [align_of_dvd place hstart]
    exact .kept hstart
  · cases hplace : place (b.bytes.length + 3) with
    | none =>
      rw [align_of_refusal hstart hplace]
      exact .refused hstart hplace
    | some region =>
      rw [align_of_region hstart hplace]
      exact .moved hstart hplace

/-- What has been aligned starts at a multiple of four. -/
theorem dvd_start_of_align (h : align place b = .ok b') : 4 ∣ b'.start := by
  have haligns := aligns_align place b
  rw [h] at haligns
  cases haligns with
  | kept hstart => exact hstart
  | moved => exact (isLeast_padding _).1

/-- Aligning changes no byte. -/
theorem bytes_align (h : align place b = .ok b') : b'.bytes = b.bytes := by
  have haligns := aligns_align place b
  rw [h] at haligns
  cases haligns <;> rfl

/-- Aligning fails only where a region is needed and refused. -/
theorem align_eq_error_iff {fault : FrameError} : align place b = .error fault ↔
    ¬4 ∣ b.start ∧ place (b.bytes.length + 3) = none ∧
      fault = .outOfMemory (b.bytes.length + 3) := by
  constructor
  · intro h
    have haligns := aligns_align place b
    rw [h] at haligns
    cases haligns with
    | refused hstart hplace => exact ⟨hstart, hplace, rfl⟩
  · rintro ⟨hstart, hplace, rfl⟩
    exact align_of_refusal hstart hplace

end Buffer

/-! ## Handing over -/

namespace Split

variable {memory : Memory} {tagClass : TagClass} {cut : Split}

/-- A payload that is handed over is the payload, wherever it lies by then. -/
theorem handOver_eq_ok {payload : Bytes} (h : cut.handOver memory tagClass = .ok payload) :
    payload = cut.payload := by
  unfold handOver at h
  split at h
  · split at h
    next halign =>
      cases h
      exact Buffer.bytes_align halign
    next => cases h
  · cases h
    rfl

/-- A payload is kept from its session only if it is a control payload that lies badly and there is
no memory for a copy. -/
theorem handOver_eq_error_iff {e : MuxError} : cut.handOver memory tagClass = .error e ↔
    tagClass = .control ∧ ¬4 ∣ memory.frameStart + cut.header.length ∧
      memory.place (cut.payload.length + 3) = none ∧
      e = .outOfMemory (.outOfMemory (cut.payload.length + 3)) := by
  let b : Buffer := ⟨memory.frameStart + cut.header.length, cut.payload⟩
  constructor
  · intro h
    unfold handOver at h
    split at h
    next hclass =>
      split at h
      next => cases h
      next fault hfault =>
        cases h
        obtain ⟨hstart, hplace, rfl⟩ := Buffer.align_eq_error_iff.1 hfault
        exact ⟨hclass, hstart, hplace, rfl⟩
    next => cases h
  · rintro ⟨rfl, hstart, hplace, rfl⟩
    have halign : b.align memory.place = .error (.outOfMemory (cut.payload.length + 3)) :=
      Buffer.align_of_refusal hstart hplace
    rw [handOver, if_pos rfl, halign]

/-- Only control payloads have to be aligned. -/
theorem handOver_of_ne_control (h : tagClass ≠ .control) (memory : Memory) (cut : Split) :
    cut.handOver memory tagClass = .ok cut.payload :=
  if_neg h

/-- With memory at hand every payload is handed over. -/
theorem handOver_of_available (h : memory.Available) (cut : Split) (tagClass : TagClass) :
    cut.handOver memory tagClass = .ok cut.payload := by
  cases hover : cut.handOver memory tagClass with
  | ok payload => rw [handOver_eq_ok hover]
  | error e =>
    obtain ⟨-, -, hnone, -⟩ := handOver_eq_error_iff.1 hover
    have hsome := h (cut.payload.length + 3)
    rw [hnone] at hsome
    cases hsome

end Split

/-! ## The law -/

namespace Buffer

/-- Wherever a payload lies, and wherever the allocator places what it grants. A payload that has
been aligned starts at a multiple of four and has the bytes it had. One that starts there already
stays, whatever any allocator would say. For any other a region of three bytes more than the payload
is asked for; that covers the payload behind the least padding that aligns it there, so the two
writes that fill the region leave it where it is, even if the allocator would place nothing else,
and the payload is found behind the padding. If the region is refused, and only then, there is no
aligned payload, and the fault names the size that was asked for. This is also all that keeps a
payload from being handed to its session, and only control payloads meet it. -/
theorem align_placed (place : Allocator) (b : Buffer) :
    (∀ b', align place b = .ok b' → 4 ∣ b'.start ∧ b'.bytes = b.bytes) ∧
    (4 ∣ b.start → ∀ other, align other b = .ok b) ∧
    (∀ region, ¬4 ∣ b.start → place (b.bytes.length + 3) = some region →
      ∃ pad, IsLeast {n | 4 ∣ region.1.start + n} pad ∧
        pad + b.bytes.length ≤ b.bytes.length + 3 ∧
        (∀ other : Allocator,
          (Filling.empty region.1).append other (List.replicate pad 0) =
            some ⟨region.1, List.replicate pad 0⟩ ∧
          Filling.append other ⟨region.1, List.replicate pad 0⟩ b.bytes =
            some ⟨region.1, List.replicate pad 0 ++ b.bytes⟩) ∧
        align place b = .ok ⟨region.1.start + pad, b.bytes⟩) ∧
    (∀ fault, align place b = .error fault ↔
      ¬4 ∣ b.start ∧ place (b.bytes.length + 3) = none ∧
        fault = .outOfMemory (b.bytes.length + 3)) ∧
    ∀ (frameStart : Nat) (cut : Split) (tagClass : TagClass) (e : MuxError),
      cut.handOver ⟨frameStart, place⟩ tagClass = .error e ↔
        tagClass = .control ∧ ¬4 ∣ frameStart + cut.header.length ∧
          place (cut.payload.length + 3) = none ∧
          e = .outOfMemory (.outOfMemory (cut.payload.length + 3)) := by
  refine ⟨?_, fun hstart other ↦ align_of_dvd other hstart, ?_, fun _ ↦ align_eq_error_iff,
    fun _ _ _ _ ↦ Split.handOver_eq_error_iff⟩
  · intro b' hb'
    exact ⟨dvd_start_of_align hb', bytes_align hb'⟩
  · intro region hstart hplace
    have hpad : padding region.1.start ≤ 3 := padding_le region.1.start
    refine ⟨padding region.1.start, isLeast_padding _, ?_, ?_, align_of_region hstart hplace⟩
    · rw [Nat.add_comm]
      exact Nat.add_le_add_left hpad _
    · intro other
      exact ⟨Filling.append_padding other region.2, Filling.append_payload other region.2⟩

/-- One byte above a multiple of four the padding takes all three bytes that are asked for besides
the payload, and fills the region to its end. -/
theorem align_placed_tight :
    let place : Allocator := fun size ↦ some ⟨⟨5, size⟩, Nat.le_refl size⟩
    let refuse : Allocator := fun _ ↦ none
    align place ⟨2, [7, 9]⟩ = .ok ⟨8, [7, 9]⟩ ∧
    align refuse ⟨8, [7, 9]⟩ = .ok ⟨8, [7, 9]⟩ ∧
    align refuse ⟨2, [7, 9]⟩ = .error (.outOfMemory 5) := by
  intro place refuse
  obtain ⟨-, -, hmoved, -⟩ := align_placed place ⟨2, [7, 9]⟩
  obtain ⟨-, hkept, -⟩ := align_placed place ⟨8, [7, 9]⟩
  obtain ⟨-, -, -, hrefused, -⟩ := align_placed refuse ⟨2, [7, 9]⟩
  refine ⟨?_, hkept (by decide) refuse, (hrefused _).2 ⟨by decide, rfl, rfl⟩⟩
  obtain ⟨pad, hleast, -, -, halign⟩ := hmoved _ (by decide) rfl
  obtain rfl : pad = 3 := hleast.unique (isLeast_padding 5)
  exact halign

end Buffer

end ModemMux
