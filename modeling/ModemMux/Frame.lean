import ModemMux.Mac
import ModemMux.Payload

/-!
# Ethernet frames that carry a VLAN tag

A frame crosses the boundary to the host with its tag beside it (out of band) or inside it, in an
802.1Q header (in band). `Frame.split` cuts a frame into link header and payload, and
`Split.header_append_payload` says that nothing is lost.
-/

namespace ModemMux

structure Frame where
  /-- The tag that travels beside the frame. -/
  vlanTag : Option Tag
  /-- The bytes from the destination address on. -/
  data : Bytes
  deriving DecidableEq, Repr

/-- A frame cut after its link header. -/
structure Split where
  vlanTag : Option Tag
  header : Bytes
  payload : Bytes
  deriving DecidableEq, Repr

namespace Frame

/-- The length of an Ethernet header: two addresses and a type. -/
def plainHeader : Nat := 14

/-- The length of an Ethernet header with an in-band VLAN tag. -/
def vlanHeader : Nat := 18

def typeOffset : Nat := 12

/-- The number of VLAN ids an in-band tag can name. -/
def vlanIds : UInt16 := 4096

/-- A frame whose tag travels out of band. -/
def ethernet (tag : Tag) (dst src : Mac) (etherType : UInt16) (payload : Bytes) : Frame where
  vlanTag := some tag
  data := dst.octets ++ src.octets ++ Word.toBytes etherType ++ payload

/-- A frame whose tag travels in band, in the twelve bits there are for it. -/
def vlan (tag : Tag) (dst src : Mac) (etherType : UInt16) (payload : Bytes) : Frame where
  vlanTag := none
  data := dst.octets ++ src.octets ++ Word.toBytes EtherType.vlan ++ Word.toBytes (tag % vlanIds) ++
    Word.toBytes etherType ++ payload

variable (f : Frame)

def length : Nat := f.data.length

def etherType? : Option UInt16 := Word.at? f.data typeOffset

/-- Whether the frame carries an in-band VLAN header. -/
def isInBand : Bool := f.etherType? == some EtherType.vlan

/-- The type of the payload, behind any in-band VLAN header. -/
def innerType? : Option UInt16 :=
  if f.isInBand then Word.at? f.data (vlanHeader - 2) else f.etherType?

/-- The tag of the frame: the one beside it, else the one inside it. -/
def tag? : Option Tag :=
  match f.vlanTag with
  | some tag => some tag
  | none => if f.isInBand then (Word.at? f.data plainHeader).map (· % vlanIds) else none

def headerLength : Nat := if f.isInBand then vlanHeader else plainHeader

def split : Except FrameError Split :=
  if f.length < f.headerLength then .error (.headerTooShort f.length f.headerLength)
  else .ok ⟨f.vlanTag, f.data.take f.headerLength, f.data.drop f.headerLength⟩

end Frame

namespace Split

def payloadClass (s : Split) : PayloadClass := PayloadClass.sniff s.payload

def join (s : Split) (payload : Bytes) : Frame := ⟨s.vlanTag, s.header ++ payload⟩

/-- A frame that is cut loses no byte. -/
theorem header_append_payload {f : Frame} {s : Split} (h : f.split = .ok s) :
    s.header ++ s.payload = f.data := by
  unfold Frame.split at h
  split at h
  next => cases h
  next => cases h; simp

/-- What was cut off a frame makes the frame again. -/
theorem join_payload {f : Frame} {s : Split} (h : f.split = .ok s) : s.join s.payload = f := by
  have hd := header_append_payload h
  unfold Frame.split at h
  split at h
  next => cases h
  next =>
    cases h
    simp only at hd
    simp [join]

end Split

/-- Overwrites the addresses and the type at the start of a buffer that has room for them. -/
def Frame.writeHeader (dst src : Mac) (etherType : UInt16) (buffer : Bytes) :
    Except FrameError Bytes :=
  if buffer.length < plainHeader then .error (.headerTooShort buffer.length plainHeader)
  else .ok (dst.octets ++ src.octets ++ Word.toBytes etherType ++ buffer.drop plainHeader)

end ModemMux
