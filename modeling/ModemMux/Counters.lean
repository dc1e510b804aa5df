/-!
# Packet and byte counters

Counters are 64-bit words and wrap around. `Counters.record` counts one packet; counters that are
fed the same packets in any order agree (`record_comm`).
-/

namespace ModemMux

inductive Direction where
  /-- From the host to the modem. -/
  | uplink
  /-- From the modem to the host. -/
  | downlink
  deriving DecidableEq, Repr

/-- Packets and bytes of one link, in either direction. -/
@[ext] structure Counters where
  txPackets : UInt64 := 0
  txBytes : UInt64 := 0
  rxPackets : UInt64 := 0
  rxBytes : UInt64 := 0
  deriving DecidableEq, Repr, Inhabited

namespace Counters

def zero : Counters := {}

/-- Counts one packet of so many bytes. -/
def record (bytes : UInt64) (direction : Direction) (c : Counters) : Counters :=
  match direction with
  | .uplink => { c with txPackets := c.txPackets + 1, txBytes := c.txBytes + bytes }
  | .downlink => { c with rxPackets := c.rxPackets + 1, rxBytes := c.rxBytes + bytes }

def add (c d : Counters) : Counters where
  txPackets := c.txPackets + d.txPackets
  txBytes := c.txBytes + d.txBytes
  rxPackets := c.rxPackets + d.rxPackets
  rxBytes := c.rxBytes + d.rxBytes

instance : Add Counters := ⟨add⟩

theorem add_def (c d : Counters) : c + d =
    ⟨c.txPackets + d.txPackets, c.txBytes + d.txBytes, c.rxPackets + d.rxPackets,
      c.rxBytes + d.rxBytes⟩ := rfl

theorem add_comm (c d : Counters) : c + d = d + c := by
  simp [add_def, UInt64.add_comm]

theorem add_assoc (c d e : Counters) : c + d + e = c + (d + e) := by
  simp [add_def, UInt64.add_assoc]

@[simp] theorem zero_add (c : Counters) : zero + c = c := by
  simp [add_def, zero]

@[simp] theorem add_zero (c : Counters) : c + zero = c := by
  simp [add_def, zero]

/-- A packet counts the same wherever it is counted in a sum. -/
theorem record_eq_add (bytes : UInt64) (direction : Direction) (c : Counters) :
    c.record bytes direction = c + zero.record bytes direction := by
  cases direction <;> simp [record, add_def, zero]

/-- Counting a packet commutes with adding other counters. -/
theorem record_add (bytes : UInt64) (direction : Direction) (c d : Counters) :
    (c + d).record bytes direction = c.record bytes direction + d := by
  rw [record_eq_add, record_eq_add _ _ c, add_assoc, add_assoc, add_comm d]

/-- In which order two packets are counted makes no difference. -/
theorem record_comm (a b : UInt64) (p q : Direction) (c : Counters) :
    (c.record a p).record b q = (c.record b q).record a p := by
  have h (n : UInt64) : n + a + b = n + b + a := by
    rw [UInt64.add_assoc, UInt64.add_comm a b, UInt64.add_assoc]
  cases p <;> cases q <;> simp [record, h]

end Counters

end ModemMux
