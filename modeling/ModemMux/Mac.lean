import ModemMux.Frame.Error
import ModemMux.Text.Hex

/-!
# Hardware addresses

An address has six octets, written as six pairs of hexadecimal digits between colons. It is read
back from such pairs between colons or hyphens (`parse_display`).
-/

namespace ModemMux

open Text

/-- A 48-bit Ethernet hardware address. -/
structure Mac where
  o0 : UInt8
  o1 : UInt8
  o2 : UInt8
  o3 : UInt8
  o4 : UInt8
  o5 : UInt8
  deriving DecidableEq, Repr, Inhabited

namespace Mac

/-- The octets in wire order. -/
def octets (m : Mac) : Bytes := [m.o0, m.o1, m.o2, m.o3, m.o4, m.o5]

@[simp] theorem length_octets (m : Mac) : m.octets.length = 6 := rfl

def ofOctets? : Bytes → Option Mac
  | [a, b, c, d, e, f] => some ⟨a, b, c, d, e, f⟩
  | _ => none

@[simp] theorem ofOctets?_octets (m : Mac) : ofOctets? m.octets = some m := rfl

/-- An address is read from its own octets and from no other bytes. -/
theorem ofOctets?_eq_some_iff {bytes : Bytes} {m : Mac} :
    ofOctets? bytes = some m ↔ bytes = m.octets := by
  constructor
  · intro h
    unfold ofOctets? at h
    split at h
    next => cases h; rfl
    next => cases h
  · rintro rfl
    exact ofOctets?_octets m

/-- The address that stands for "none". -/
def zero : Mac := ⟨0, 0, 0, 0, 0, 0⟩

def isZero (m : Mac) : Bool := m == zero

/-- Whether the address names a group of stations: its first octet is odd. -/
def isMulticast (m : Mac) : Bool := m.o0.toNat % 2 = 1

/-- Whether the address was assigned by its user and not by a maker: the second lowest bit of the
first octet. -/
def isLocal (m : Mac) : Bool := m.o0.toNat / 2 % 2 = 1

def isValidUnicast (m : Mac) : Bool := !m.isZero && !m.isMulticast

/-- The same address with the low bit of the last octet flipped: the station at the other end. -/
def peer (m : Mac) : Mac := { m with o5 := m.o5 ^^^ 1 }

/-- The locally administered unicast address nearest to the given octets: the group bit of the
first octet is cleared and its local bit is set. -/
def toLocal (m : Mac) : Mac := { m with o0 := m.o0 &&& 0xFE ||| 0x02 }

/-- The local bit keeps the first octet from being zero. -/
theorem toLocal_octet : ∀ n < 256, UInt8.ofNat n &&& 0xFE ||| 0x02 ≠ 0 := by decide +kernel

/-- Any octets, made local, are an address that a device may use. -/
theorem isValidUnicast_toLocal (m : Mac) : m.toLocal.isValidUnicast := by
  have h := toLocal_octet m.o0.toNat m.o0.toNat_lt
  simp only [UInt8.ofNat_toNat] at h
  have hne : m.toLocal ≠ zero := fun heq ↦ h (congrArg Mac.o0 heq)
  simp only [isValidUnicast, isZero, isMulticast, beq_eq_false_iff_ne.2 hne]
  simp [toLocal]

/-! ## Text -/

/-- The digits of the octets between colons. -/
def displayChars (m : Mac) : List Char :=
  Hex.encodeByte m.o0 ++ ':' :: Hex.encodeByte m.o1 ++ ':' :: Hex.encodeByte m.o2 ++
    ':' :: Hex.encodeByte m.o3 ++ ':' :: Hex.encodeByte m.o4 ++ ':' :: Hex.encodeByte m.o5

/-- The written form of an address: lower case, between colons. -/
def display (m : Mac) : String := String.ofList m.displayChars

/-- The value of one part of a written address: two digits, or a plus sign and one digit. -/
def readOctet? : List Char → Option UInt8
  | ['+', d] => (hexValue? d).map UInt8.ofNat
  | [hi, lo] =>
    match hexValue? hi, hexValue? lo with
    | some h, some l => some (UInt8.ofNat (16 * h + l))
    | _, _ => none
  | _ => none

/-- Whether a character stands between two octets of a written address. -/
def isSeparator (c : Char) : Bool := c == ':' || c == '-'

def ofParts? (parts : List (List Char)) : Option Mac :=
  (parts.mapM readOctet?).bind ofOctets?

def parse (text : String) : Except FrameError Mac :=
  match ofParts? (fields isSeparator text.toList) with
  | some m => .ok m
  | none => .error (.invalidMac text)

/-- No digit is taken for a sign or for a separator. -/
theorem hexDigit_ne : ∀ n < 16, hexDigit n ≠ '+' ∧ isSeparator (hexDigit n) = false := by decide

/-- The digits of an octet are read as that octet. -/
theorem readOctet?_encodeByte (b : UInt8) : readOctet? (Hex.encodeByte b) = some b := by
  have hb := b.toNat_lt
  have hne := (hexDigit_ne (b.toNat / 16) (by omega)).1
  have h : 16 * (b.toNat / 16) + b.toNat % 16 = b.toNat := by omega
  unfold Hex.encodeByte readOctet?
  split
  next heq => simp_all
  next heq =>
    simp only [List.cons.injEq, and_true] at heq
    obtain ⟨rfl, rfl⟩ := heq
    simp [hexValue?_hexDigit (b.toNat / 16) (by omega),
      hexValue?_hexDigit (b.toNat % 16) (by omega), h]
  next hno => exact absurd rfl (hno _ _)

theorem isSeparator_encodeByte (b : UInt8) :
    ∀ c ∈ Hex.encodeByte b, isSeparator c = false := by
  have hb := b.toNat_lt
  simp [Hex.encodeByte, (hexDigit_ne (b.toNat / 16) (by omega)).2,
    (hexDigit_ne (b.toNat % 16) (by omega)).2]

/-- The first octet of a written address is its first part. -/
theorem fields_encodeByte (b : UInt8) (rest : List Char) :
    fields isSeparator (Hex.encodeByte b ++ ':' :: rest) =
      Hex.encodeByte b :: fields isSeparator rest :=
  fields_append_cons (isSeparator_encodeByte b) rfl

/-- The last octet of a written address is its last part. -/
theorem fields_encodeByte_nil (b : UInt8) :
    fields isSeparator (Hex.encodeByte b) = [Hex.encodeByte b] :=
  fields_eq_singleton (isSeparator_encodeByte b)

/-- An address is read back from its written form. -/
theorem parse_display (m : Mac) : parse m.display = .ok m := by
  simp [parse, display, displayChars, fields_encodeByte, fields_encodeByte_nil, ofParts?,
    readOctet?_encodeByte, ofOctets?]

end Mac

end ModemMux
