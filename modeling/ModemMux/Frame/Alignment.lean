import ModemMux.Frame

/-!
# Buffers in memory

Control payloads are handed on only from an address that is a multiple of four. A buffer is a run
of bytes at an address; `align` moves a payload that lies elsewhere into a fresh buffer, behind as
many bytes of padding as that buffer's address calls for. An allocator may place a buffer anywhere,
or refuse.
-/

namespace ModemMux

/-- Bytes at an address. -/
structure Buffer where
  start : Nat
  bytes : Bytes
  deriving DecidableEq, Repr

/-- Room for bytes at an address. -/
structure Region where
  start : Nat
  capacity : Nat

/-- What an allocator answers to a request for so many bytes: a region with at least that much
room, or nothing. -/
abbrev Allocator := (size : Nat) → Option { r : Region // size ≤ r.capacity }

/-- A region that is being filled from its start. -/
structure Filling where
  region : Region
  bytes : Bytes

namespace Filling

def empty (region : Region) : Filling := ⟨region, []⟩

/-- Appends bytes. What no longer fits is moved, with all before it, to a region of twice the
size that is needed. -/
def append (place : Allocator) (f : Filling) (more : Bytes) : Option Filling :=
  let filled := f.bytes ++ more
  if filled.length ≤ f.region.capacity then some ⟨f.region, filled⟩
  else (place (2 * filled.length)).map fun r ↦ ⟨r.1, filled⟩

/-- What fits is written in place, whatever the allocator would say. -/
theorem append_of_le (place : Allocator) {f : Filling} {more : Bytes}
    (h : f.bytes.length + more.length ≤ f.region.capacity) :
    f.append place more = some ⟨f.region, f.bytes ++ more⟩ := by
  simp [append, h]

/-- The bytes of a region behind the first `skip`. -/
def tail (f : Filling) (skip : Nat) : Buffer := ⟨f.region.start + skip, f.bytes.drop skip⟩

end Filling

namespace Buffer

/-- The alignment of control payloads. -/
def alignment : Nat := 4

def isAligned (b : Buffer) : Bool := b.start % alignment = 0

/-- The least number of bytes from an address to a multiple of the alignment. -/
def padding (address : Nat) : Nat := (alignment - address % alignment) % alignment

/-- There are never more than three bytes of padding. -/
theorem padding_le (address : Nat) : padding address ≤ alignment - 1 := by
  unfold padding alignment
  omega

/-- The padding leads to a multiple of the alignment. -/
theorem add_padding_mod (address : Nat) : (address + padding address) % alignment = 0 := by
  unfold padding alignment
  omega

/-- A copy of the payload in a fresh region, behind the padding that aligns it. -/
def copyAligned (place : Allocator) (payload : Bytes) : Option Buffer :=
  match place (payload.length + (alignment - 1)) with
  | none => none
  | some region =>
    let pad := padding region.1.start
    match (Filling.empty region.1).append place (List.replicate pad 0) with
    | none => none
    | some padded => (padded.append place payload).map (·.tail pad)

/-- The payload where it lies if it is aligned there, else an aligned copy. -/
def align (place : Allocator) (payload : Buffer) : Except FrameError Buffer :=
  if payload.isAligned then .ok payload
  else match copyAligned place payload.bytes with
    | some copy => .ok copy
    | none => .error (.outOfMemory (payload.bytes.length + (alignment - 1)))

/-- The two writes that make an aligned copy never need a second region: the copy succeeds if the
first request is granted. -/
theorem copyAligned_eq (place : Allocator) (payload : Bytes) :
    copyAligned place payload = (place (payload.length + (alignment - 1))).map fun r ↦
      ⟨r.1.start + padding r.1.start, payload⟩ := by
  unfold copyAligned
  cases place (payload.length + (alignment - 1)) with
  | none => rfl
  | some region =>
    have hroom := region.2
    have hpad := padding_le region.1.start
    have h1 : (Filling.empty region.1).append place (List.replicate (padding region.1.start) 0) =
        some ⟨region.1, (Filling.empty region.1).bytes ++
          List.replicate (padding region.1.start) 0⟩ :=
      Filling.append_of_le place (by simp [Filling.empty]; omega)
    simp only [h1, Option.map_some]
    rw [Filling.append_of_le]
    · simp [Filling.tail, Filling.empty]
    · simp [Filling.empty]; omega

end Buffer

/-- What memory a transmission meets: where the bytes of the frame lie, and how buffers are
placed. -/
structure Memory where
  frameStart : Nat
  place : Allocator

namespace Memory

/-- An allocator that never refuses. -/
def ample : Memory where
  frameStart := 0
  place size := some ⟨⟨0, size⟩, Nat.le_refl size⟩

/-- Whether every request is granted. -/
def Available (m : Memory) : Prop := ∀ size, (m.place size).isSome

theorem available_ample : ample.Available := fun _ ↦ rfl

end Memory

/-- Joins a header and a payload in a fresh buffer. -/
def Split.reassemble (place : Allocator) (s : Split) (payload : Bytes) : Except FrameError Frame :=
  match place (s.header.length + payload.length) with
  | some _ => .ok (s.join payload)
  | none => .error (.outOfMemory (s.header.length + payload.length))

end ModemMux
