import ModemMux.Error
import ModemMux.Tag

/-!
# The set-up of a root device
-/

namespace ModemMux

structure Config where
  /-- The name of the interface. -/
  name : String := "wwan0"
  /-- The maximum number of IP-capable sessions. -/
  maxSessions : Nat := 8
  /-- The first transfer unit. -/
  mtu : Nat := 1500
  /-- The written form of a fixed address; without one the device gets a random address. -/
  macAddress : Option String := none
  deriving DecidableEq, Repr, Inhabited

namespace Config

def leastMtu : Nat := 68

def greatestMtu : Nat := 1024 * 1024

/-- The greatest number of IP sessions: there are no more data tags. -/
def mostSessions : Nat := Tag.dataEnd

def checkMtu (mtu : Nat) : Except MuxError Unit :=
  if leastMtu ≤ mtu ∧ mtu ≤ greatestMtu then .ok ()
  else .error (.outOfRange mtu leastMtu greatestMtu)

/-- A transfer unit passes if and only if it is within the bounds. -/
theorem checkMtu_eq_ok_iff {mtu : Nat} :
    checkMtu mtu = .ok () ↔ leastMtu ≤ mtu ∧ mtu ≤ greatestMtu := by
  unfold checkMtu
  split <;> simp_all

variable (c : Config)

/-- The fixed address, if there is one: it must be one that a device may use. -/
def address? : Except MuxError (Option Mac) :=
  match c.macAddress with
  | none => .ok none
  | some text =>
    match Mac.parse text with
    | .error fault => .error (.invalidConfig s!"mac_address: {fault.message}")
    | .ok mac => if mac.isValidUnicast then .ok (some mac) else .error (.invalidAddress mac)

/-- Refuses a set-up, for the first of its faults: no name, too few or too many sessions, a
transfer unit out of range, an address that no device may use. -/
def validate : Except MuxError Unit :=
  if c.name.isEmpty then .error (.invalidConfig "device name must not be empty")
  else if c.maxSessions = 0 ∨ mostSessions < c.maxSessions then
    .error (.invalidConfig s!"max_sessions must be in 1..={mostSessions}, got {c.maxSessions}")
  else match checkMtu c.mtu with
    | .error e => .error e
    | .ok () =>
      match c.address? with
      | .error e => .error e
      | .ok _ => .ok ()

end Config

end ModemMux
