import Mathlib.Algebra.BigOperators.Group.List.Basic
import Mathlib.Algebra.GroupWithZero.Nat
import ModemMux.Bytes
import ModemMux.Counters

/-!
# Sums of counters

Counters add up part by part, modulo `2 ^ 64`. They are a commutative monoid, so the counters of
many links have a sum (`Counters.toNat_sum` reads it in plain numbers), and what packets amount to
does not depend on the order in which they were counted (`Counters.recordAll_perm`).
-/

namespace ModemMux.Counters

instance : Zero Counters := ⟨zero⟩

theorem zero_def : (0 : Counters) = zero := rfl

instance : AddCommMonoid Counters where
  add_assoc := add_assoc
  zero_add := zero_add
  add_zero := add_zero
  add_comm := add_comm
  nsmul := nsmulRec

/-! ## The parts of a sum -/

/-- The four numbers that counters consist of. -/
def parts : List (Counters → UInt64) := [txPackets, txBytes, rxPackets, rxBytes]

theorem part_zero : ∀ part ∈ parts, part 0 = 0 := by
  simp [parts, zero_def, zero]

/-- Each of the four numbers is added on its own. -/
theorem part_add (c d : Counters) : ∀ part ∈ parts, part (c + d) = part c + part d := by
  simp [parts, add_def]

/-- Each part of a sum is the sum of the parts, up to a multiple of `2 ^ 64`. -/
theorem toNat_sum {part : Counters → UInt64} (hpart : part ∈ parts) (cs : List Counters) :
    (part cs.sum).toNat = (cs.map fun c ↦ (part c).toNat).sum % 2 ^ 64 := by
  induction cs with
  | nil => simp [part_zero part hpart]
  | cons c cs ih =>
    rw [List.sum_cons, part_add c cs.sum part hpart, UInt64.toNat_add, ih, List.map_cons,
      List.sum_cons, Nat.add_mod_mod]

/-! ## Packets -/

structure Packet where
  bytes : UInt64
  direction : Direction
  deriving DecidableEq, Repr

def recordAll (packets : List Packet) (c : Counters) : Counters :=
  packets.foldl (fun c p ↦ c.record p.bytes p.direction) c

/-- The last packet is counted on top of all before it. -/
theorem recordAll_concat (packets : List Packet) (bytes : UInt64) (direction : Direction)
    (c : Counters) : c.recordAll (packets ++ [⟨bytes, direction⟩]) =
      (c.recordAll packets).record bytes direction := by
  simp [recordAll]

/-- The order in which packets are counted makes no difference. -/
theorem recordAll_perm {packets packets' : List Packet} (h : packets.Perm packets')
    (c : Counters) : c.recordAll packets = c.recordAll packets' := by
  have hcomm : RightCommutative fun (c : Counters) (p : Packet) ↦ c.record p.bytes p.direction :=
    ⟨fun c p q ↦ record_comm p.bytes q.bytes p.direction q.direction c⟩
  exact h.foldl_eq c

/-! ## Payloads -/

/-- The counters of a link over which payloads went up and down. -/
def ofPayloads (uplink downlink : List Bytes) : Counters where
  txPackets := .ofNat uplink.length
  txBytes := .ofNat (uplink.map List.length).sum
  rxPackets := .ofNat downlink.length
  rxBytes := .ofNat (downlink.map List.length).sum

/-- Payloads of two stretches of time count as the sum of the two. -/
theorem ofPayloads_append (up up' down down' : List Bytes) :
    ofPayloads (up ++ up') (down ++ down') = ofPayloads up down + ofPayloads up' down' := by
  simp [ofPayloads, add_def, UInt64.ofNat_add]

/-- A packet up is one payload more among those that went up. -/
theorem record_uplink (payload : Bytes) (c : Counters) :
    c.record (.ofNat payload.length) .uplink = c + ofPayloads [payload] [] := by
  simp [record, ofPayloads, add_def]

/-- A packet down is one payload more among those that went down. -/
theorem record_downlink (payload : Bytes) (c : Counters) :
    c.record (.ofNat payload.length) .downlink = c + ofPayloads [] [payload] := by
  simp [record, ofPayloads, add_def]

end ModemMux.Counters
