/-!
# VLAN tags and session ids

A tag names a session. Tag 0 addresses the root device and never names a session, tags 1 to 255
carry IP data, tags 257 to 511 carry control streams, and all others are unused. On the wire a
session is named by an id that is one less than its tag.
-/

namespace ModemMux

abbrev Tag := UInt16

/-- The name of a session on the modem side: its tag less one. -/
abbrev SessionId := UInt32

/-- What a tag may be used for. -/
inductive TagClass where
  /-- The root device. -/
  | root
  /-- A session that carries IP packets. -/
  | data
  /-- A session that carries anything but IP packets. -/
  | control
  /-- No session has such a tag. -/
  | invalid
  deriving DecidableEq, Repr, Inhabited

namespace TagClass

/-- The word for the class in reports. -/
def label : TagClass → String
  | .root => "root"
  | .data => "data"
  | .control => "control"
  | .invalid => "invalid"

/-- The word for the class within a sentence. -/
def title : TagClass → String
  | .root => "Root"
  | .data => "Data"
  | .control => "Control"
  | .invalid => "Invalid"

/-- The word for the class in a table. -/
def heading : TagClass → String
  | .root => "ROOT"
  | .data => "DATA"
  | .control => "CONTROL"
  | .invalid => "INVALID"

end TagClass

namespace Tag

def dataEnd : Nat := 255

def controlStart : Nat := 257

def controlEnd : Nat := 511

def classify (tag : Tag) : TagClass :=
  if tag.toNat = 0 then .root
  else if tag.toNat ≤ dataEnd then .data
  else if controlStart ≤ tag.toNat ∧ tag.toNat ≤ controlEnd then .control
  else .invalid

/-- Whether a session may have this tag. -/
def isSession (tag : Tag) : Bool :=
  match tag.classify with
  | .data | .control => true
  | .root | .invalid => false

/-- The tag of a session id, unless it would lie above every session tag. -/
def ofSession? (id : SessionId) : Option Tag :=
  if id.toNat + 1 ≤ controlEnd then some (UInt16.ofNat (id.toNat + 1)) else none

/-- The session id of a tag. The root device has none. -/
def toSession? (tag : Tag) : Option SessionId :=
  if tag.toNat = 0 then none else some (UInt32.ofNat (tag.toNat - 1))

theorem classify_eq_data_iff {tag : Tag} :
    tag.classify = .data ↔ 1 ≤ tag.toNat ∧ tag.toNat ≤ 255 := by
  grind [classify, dataEnd]

theorem classify_eq_control_iff {tag : Tag} :
    tag.classify = .control ↔ 257 ≤ tag.toNat ∧ tag.toNat ≤ 511 := by
  grind [classify, dataEnd, controlStart, controlEnd]

/-- The tags of sessions are those of IP data and of control streams. -/
theorem isSession_iff {tag : Tag} :
    tag.isSession ↔ tag.classify = .data ∨ tag.classify = .control := by
  cases h : tag.classify <;> simp [isSession, h]

/-- No session has the tag of the root device, the one between the two ranges, or one above them. -/
theorem isSession_eq_false_iff {tag : Tag} :
    tag.isSession = false ↔ tag.toNat = 0 ∨ tag.toNat = 256 ∨ 511 < tag.toNat := by
  rw [← Bool.not_eq_true, isSession_iff, classify_eq_data_iff, classify_eq_control_iff]
  omega

/-- An id below 511 has the tag above it. -/
theorem ofSession?_of_le {id : SessionId} (h : id.toNat + 1 ≤ 511) :
    ofSession? id = some (.ofNat (id.toNat + 1)) := if_pos h

/-- An id from 511 on has no tag. -/
theorem ofSession?_of_lt {id : SessionId} (h : 511 < id.toNat + 1) : ofSession? id = none :=
  if_neg (Nat.not_le.2 h)

theorem toNat_ofSession? {id : SessionId} {tag : Tag} (h : ofSession? id = some tag) :
    tag.toNat = id.toNat + 1 := by
  unfold ofSession? at h
  split at h
  next hle =>
    have hle : id.toNat + 1 ≤ 511 := hle
    cases h
    simp only [UInt16.toNat_ofNat']
    omega
  next => cases h

/-- A tag that an id leads to leads back to the id. -/
theorem toSession?_of_ofSession? {id : SessionId} {tag : Tag} (h : ofSession? id = some tag) :
    tag.toSession? = some id := by
  have ht := toNat_ofSession? h
  simp [toSession?, ht]

theorem toNat_of_toSession? {tag : Tag} {id : SessionId} (h : tag.toSession? = some id) :
    tag.toNat = id.toNat + 1 := by
  unfold toSession? at h
  split at h
  next => cases h
  next hne =>
    cases h
    have := tag.toNat_lt
    rw [UInt32.toNat_ofNat']
    omega

/-- A session id belongs to one tag. -/
theorem eq_of_toSession? {tag tag' : Tag} {id : SessionId} (h : tag.toSession? = some id)
    (h' : tag'.toSession? = some id) : tag = tag' :=
  UInt16.toNat_inj.1 ((toNat_of_toSession? h).trans (toNat_of_toSession? h').symm)

/-- No session has the tag of the root device. -/
theorem ne_zero_of_isSession {tag : Tag} (h : tag.isSession) : tag ≠ 0 := by
  rintro rfl
  exact absurd h (by decide)

/-- A session tag has a session id, and is the tag of that id. -/
theorem exists_toSession? {tag : Tag} (h : tag.isSession) :
    ∃ id, tag.toSession? = some id ∧ ofSession? id = some tag := by
  rw [isSession_iff, classify_eq_data_iff, classify_eq_control_iff] at h
  have hne : tag.toNat ≠ 0 := by omega
  refine ⟨UInt32.ofNat (tag.toNat - 1), if_neg hne, ?_⟩
  have hid : (UInt32.ofNat (tag.toNat - 1)).toNat + 1 = tag.toNat := by
    rw [UInt32.toNat_ofNat']
    omega
  have hle : tag.toNat ≤ controlEnd := by
    unfold controlEnd
    omega
  rw [ofSession?, hid, if_pos hle, UInt16.ofNat_toNat]

end Tag

end ModemMux
