import ModemMux.Tag

/-!
# What a payload looks like

The first four bits of an IP packet are its version. A payload that starts with neither version,
or is empty, is not IP.
-/

namespace ModemMux

namespace EtherType

def ipv4 : UInt16 := 0x0800

def ipv6 : UInt16 := 0x86DD

/-- The mark of an in-band VLAN header. -/
def vlan : UInt16 := 0x8100

/-- The announced type of all that is not IP. -/
def other : UInt16 := 0x0001

end EtherType

/-- What a payload looks like from its first four bits. -/
inductive PayloadClass where
  | ipv4
  | ipv6
  /-- Empty, or neither version of IP. -/
  | other
  deriving DecidableEq, Repr, Inhabited

namespace PayloadClass

def sniff : List UInt8 → PayloadClass
  | [] => .other
  | b :: _ =>
    if b.toNat / 16 = 4 then .ipv4
    else if b.toNat / 16 = 6 then .ipv6
    else .other

def isIp : PayloadClass → Bool
  | .ipv4 | .ipv6 => true
  | .other => false

/-- The type announced to the host for a payload of this class. -/
def etherType : PayloadClass → UInt16
  | .ipv4 => EtherType.ipv4
  | .ipv6 => EtherType.ipv6
  | .other => EtherType.other

/-- A written header never looks like the mark of an in-band VLAN header. -/
theorem etherType_ne_vlan (c : PayloadClass) : c.etherType ≠ EtherType.vlan := by
  cases c <;> decide

/-- The word for the class in reports. -/
def label : PayloadClass → String
  | .ipv4 => "ipv4"
  | .ipv6 => "ipv6"
  | .other => "other"

/-- The word for the class within a sentence. -/
def title : PayloadClass → String
  | .ipv4 => "Ipv4"
  | .ipv6 => "Ipv6"
  | .other => "Other"

end PayloadClass

/-- Whether sessions of a tag class carry payloads of a payload class: data sessions carry IP and
control sessions carry the rest. -/
def TagClass.carries : TagClass → PayloadClass → Bool
  | .data, payload => payload.isIp
  | .control, payload => !payload.isIp
  | .root, _ | .invalid, _ => false

end ModemMux
