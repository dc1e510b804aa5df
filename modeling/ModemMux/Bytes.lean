/-!
# Bytes and big-endian words

Frames, headers and payloads are lists of bytes in wire order. Sixteen-bit fields are written
with the more significant byte first: `Word.ofBytes_toBytes` says that reading undoes writing.
-/

namespace ModemMux

/-- The contents of a frame, a header or a payload, in wire order. -/
abbrev Bytes := List UInt8

namespace Word

/-- The word whose more significant byte is `hi`. -/
def ofBytes (hi lo : UInt8) : UInt16 := UInt16.ofNat (256 * hi.toNat + lo.toNat)

def high (w : UInt16) : UInt8 := UInt8.ofNat (w.toNat / 256)

def low (w : UInt16) : UInt8 := UInt8.ofNat (w.toNat % 256)

/-- A word as it stands on the wire. -/
def toBytes (w : UInt16) : Bytes := [high w, low w]

@[simp] theorem length_toBytes (w : UInt16) : (toBytes w).length = 2 := rfl

/-- A word is read with the more significant byte first. -/
theorem toNat_ofBytes (hi lo : UInt8) : (ofBytes hi lo).toNat = 256 * hi.toNat + lo.toNat := by
  have := hi.toNat_lt
  have := lo.toNat_lt
  simp only [ofBytes, UInt16.toNat_ofNat']
  omega

@[simp] theorem ofBytes_toBytes (w : UInt16) : ofBytes (high w) (low w) = w := by
  apply UInt16.toNat_inj.1
  have := w.toNat_lt
  simp only [toNat_ofBytes, high, low, UInt8.toNat_ofNat']
  omega

/-- The two bytes of a word are determined by it. -/
theorem ofBytes_eq_iff {hi lo : UInt8} {w : UInt16} :
    ofBytes hi lo = w ↔ hi = high w ∧ lo = low w := by
  constructor
  · rintro rfl
    have := hi.toNat_lt
    have := lo.toNat_lt
    constructor
    · apply UInt8.toNat_inj.1
      simp only [high, toNat_ofBytes, UInt8.toNat_ofNat']
      omega
    · apply UInt8.toNat_inj.1
      simp only [low, toNat_ofBytes, UInt8.toNat_ofNat']
      omega
  · rintro ⟨rfl, rfl⟩
    exact ofBytes_toBytes w

/-- The word that starts at `offset`, if the data is long enough to hold one there. -/
def at? (data : Bytes) (offset : Nat) : Option UInt16 :=
  match data.drop offset with
  | hi :: lo :: _ => some (ofBytes hi lo)
  | _ => none

/-- There is no word where fewer than two bytes are left. -/
theorem at?_eq_none_iff {data : Bytes} {offset : Nat} :
    at? data offset = none ↔ data.length < offset + 2 := by
  unfold at?
  have h : (data.drop offset).length = data.length - offset := List.length_drop
  split
  next _ _ _ heq => simp [heq] at h ⊢; omega
  next hne =>
    match heq : data.drop offset with
    | [] => simp [heq] at h ⊢; omega
    | [_] => simp [heq] at h ⊢; omega
    | a :: b :: r => exact absurd heq (hne a b r)

/-- A word is found where its two bytes stand, one behind the other. -/
theorem at?_eq_some_iff {data : Bytes} {offset : Nat} {w : UInt16} : at? data offset = some w ↔
    data[offset]? = some (high w) ∧ data[offset + 1]? = some (low w) := by
  have hhigh : data[offset]? = (data.drop offset)[0]? := by simp
  have hlow : data[offset + 1]? = (data.drop offset)[1]? := by simp
  rw [at?, hhigh, hlow]
  match data.drop offset with
  | [] => simp
  | [_] => simp
  | hi :: lo :: _ => simp [ofBytes_eq_iff]

end Word

end ModemMux
