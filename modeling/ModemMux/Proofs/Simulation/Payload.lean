import Mathlib.Data.List.Forall2
import Mathlib.Data.List.Induction
import ModemMux.Proofs.Text.Blank
import ModemMux.Proofs.Text.Digits
import ModemMux.Scenario

/-!
# Payloads in hexadecimal

The digits of a byte string are its halves of bytes in order (`Hex.halves`), and a text is read as
that byte string if its characters are those digits one by one, in either case
(`Hex.decode_eq_ok_iff`). The reader works on the bytes of the text; a character that is not ASCII
shows there as bytes that are no digits. In a scenario there may be blanks among the digits, which
are taken out first (`PayloadSource.bytes_eq_ok_iff`). `PayloadSource.bytes_spelling` says what is
read of any text.
-/

namespace ModemMux

open Text

/-- A list that is related to another has only such members as are related to something. -/
theorem forall_mem_of_forall₂ {α β : Type} {R : α → β → Prop} {p : α → Prop} {as : List α}
    {bs : List β} (h : List.Forall₂ R as bs) (hp : ∀ a b, R a b → p a) : ∀ a ∈ as, p a :=
  ((List.forall₂_and_left as bs).1 (h.imp fun a b hab ↦ ⟨hp a b hab, hab⟩)).1

namespace Hex

variable {cs cs' : List Char} {bytes data : Bytes} {b hi lo : UInt8} {position : Nat}

/-! ## Bytes and their halves -/

/-- The halves of the bytes, the more significant first. -/
def halves (data : Bytes) : List Nat := data.flatMap fun b ↦ [b.toNat / 16, b.toNat % 16]

theorem halves_cons (b : UInt8) (data : Bytes) :
    halves (b :: data) = b.toNat / 16 :: b.toNat % 16 :: halves data := rfl

theorem length_halves (data : Bytes) : (halves data).length = 2 * data.length := by
  induction data with
  | nil => rfl
  | cons b data ih =>
    rw [halves_cons, List.length_cons, List.length_cons, List.length_cons, ih]
    omega

/-- Any two numbers below sixteen are the halves of a byte. -/
theorem halves_ofNat {h l : Nat} (hh : h < 16) (hl : l < 16) :
    (UInt8.ofNat (16 * h + l)).toNat / 16 = h ∧ (UInt8.ofNat (16 * h + l)).toNat % 16 = l := by
  have hlt : 16 * h + l < 256 := by omega
  rw [UInt8.toNat_ofNat_of_lt' hlt]
  omega

/-! ## Reading the bytes of a text -/

/-- Two digits are read as a byte if their values are its halves. -/
theorem decodePair_eq_ok_iff : decodePair position hi lo = .ok b ↔
    value? hi = some (b.toNat / 16) ∧ value? lo = some (b.toNat % 16) := by
  unfold decodePair
  constructor
  · intro h
    split at h
    next => cases h
    next => cases h
    next h l hhi hlo =>
      cases h
      obtain ⟨hhigh, hlow⟩ :=
        halves_ofNat (bounds_of_hexValue? hhi).1 (bounds_of_hexValue? hlo).1
      rw [hhi, hlo, hhigh, hlow]
      exact ⟨rfl, rfl⟩
  · rintro ⟨hhi, hlo⟩
    have h : 16 * (b.toNat / 16) + b.toNat % 16 = b.toNat := Nat.div_add_mod _ _
    rw [hhi, hlo]
    simp [h]

theorem decodeFrom_cons_cons : decodeFrom position (hi :: lo :: bytes) = .ok data ↔
    ∃ b rest, decodePair position hi lo = .ok b ∧ decodeFrom (position + 2) bytes = .ok rest ∧
      data = b :: rest := by
  rw [decodeFrom]
  constructor
  · intro h
    split at h
    next => cases h
    next b hb =>
      split at h
      next => cases h
      next rest hrest =>
        cases h
        exact ⟨b, rest, hb, hrest, rfl⟩
  · rintro ⟨b, rest, hb, hrest, rfl⟩
    simp only [hb, hrest]

/-- What is read of the bytes of a text is the byte string of whose halves they are the digits. -/
theorem decodeFrom_eq_ok_iff : decodeFrom position bytes = .ok data ↔
    List.Forall₂ (fun b n ↦ value? b = some n) bytes (halves data) := by
  induction bytes using List.twoStepInduction generalizing position data with
  | nil => cases data <;> simp [decodeFrom, halves]
  | singleton b => cases data <;> simp [decodeFrom, halves]
  | cons_cons hi lo bytes ih _ =>
    rw [decodeFrom_cons_cons]
    constructor
    · rintro ⟨b, rest, hb, hrest, rfl⟩
      obtain ⟨hhi, hlo⟩ := decodePair_eq_ok_iff.1 hb
      exact .cons hhi (.cons hlo (ih.1 hrest))
    · intro h
      cases data with
      | nil => cases h
      | cons b rest =>
        rw [halves_cons] at h
        obtain _ | ⟨hhi, _ | ⟨hlo, hrest⟩⟩ := h
        exact ⟨b, rest, decodePair_eq_ok_iff.2 ⟨hhi, hlo⟩, ih.2 hrest, rfl⟩

/-! ## Reading a text -/

theorem value?_of_lt {c : Char} (h : c.toNat < 128) :
    value? (UInt8.ofNat c.toNat) = hexValue? c := by
  have hlt : c.toNat < UInt8.size := Nat.lt_trans h (by decide)
  rw [value?, UInt8.toNat_ofNat_of_lt' hlt, Char.ofNat_toNat]

/-- Only ASCII is a digit. -/
theorem lt_of_value? {n : Nat} (h : value? b = some n) : b.toNat < 128 := by
  have hvalid : b.toNat.isValidChar := .inl (Nat.lt_trans b.toNat_lt (by decide))
  have hsame : (Char.ofNat b.toNat).toNat = b.toNat := by
    rw [Char.ofNat, dif_pos hvalid]
    rfl
  rw [← hsame]
  exact (bounds_of_hexValue? h).2

/-- The characters are the digits of the byte string, in either case. -/
def Writes (cs : List Char) (data : Bytes) : Prop := List.Forall₂ IsHexDigit cs (halves data)

/-- What is read from a text is the bytes that it writes, two digits for each, and other texts are
refused. -/
theorem decode_eq_ok_iff : decode cs = .ok data ↔ Writes cs data := by
  constructor
  · intro h
    unfold decode at h
    split at h
    next => cases h
    next =>
      -- Only ASCII bytes are digits, and a text with no other bytes has one for each character.
      have hbytes := decodeFrom_eq_ok_iff.1 h
      have hascii : ∀ c ∈ cs, c.toNat < 128 :=
        forall_lt_of_utf8 (forall_mem_of_forall₂ hbytes fun _ _ ↦ lt_of_value?)
      rw [utf8_eq_map hascii, List.forall₂_map_left_iff] at hbytes
      refine ((List.forall₂_and_left _ _).2 ⟨hascii, hbytes⟩).imp ?_
      rintro c n ⟨hc, hn⟩
      rw [value?_of_lt hc] at hn
      exact hexValue?_eq_some_iff.1 hn
  · intro h
    have hascii : ∀ c ∈ cs, c.toNat < 128 :=
      forall_mem_of_forall₂ h fun _ _ hn ↦ (bounds_of_hexValue? (hexValue?_eq_some_iff.2 hn)).2
    have heven : (utf8 cs).length % 2 ≠ 1 := by
      rw [length_utf8_of_forall_lt hascii, h.length_eq, length_halves]
      omega
    rw [decode, if_neg heven, decodeFrom_eq_ok_iff, utf8_eq_map hascii, List.forall₂_map_left_iff]
    refine h.imp ?_
    intro c n hn
    have hvalue := hexValue?_eq_some_iff.2 hn
    rw [value?_of_lt (bounds_of_hexValue? hvalue).2, hvalue]

/-- There is a byte string for any even number of digits. -/
theorem exists_writes_iff :
    (∃ data, Writes cs data) ↔ cs.length % 2 = 0 ∧ ∀ c ∈ cs, ∃ n, IsHexDigit c n := by
  constructor
  · rintro ⟨data, h⟩
    refine ⟨?_, forall_mem_of_forall₂ h fun _ n hn ↦ ⟨n, hn⟩⟩
    rw [h.length_eq, length_halves]
    exact Nat.mul_mod_right 2 _
  · rintro ⟨heven, hdigits⟩
    induction cs using List.twoStepInduction with
    | nil => exact ⟨[], .nil⟩
    | singleton c => cases heven
    | cons_cons hi lo cs ih _ =>
      obtain ⟨⟨h, hhi⟩, hrest⟩ := List.forall_mem_cons.1 hdigits
      obtain ⟨⟨l, hlo⟩, hrest⟩ := List.forall_mem_cons.1 hrest
      have heven : cs.length % 2 = 0 := by
        rw [List.length_cons, List.length_cons] at heven
        omega
      obtain ⟨data, hdata⟩ := ih heven hrest
      obtain ⟨hhigh, hlow⟩ := halves_ofNat hhi.1 hlo.1
      refine ⟨UInt8.ofNat (16 * h + l) :: data, ?_⟩
      rw [Writes, halves_cons, hhigh, hlow]
      exact .cons hhi (.cons hlo hdata)

/-- A text is refused if its length is odd, or if a character in it is not a digit. -/
theorem exists_decode_eq_error_iff : (∃ fault, decode cs = .error fault) ↔
    cs.length % 2 = 1 ∨ ∃ c ∈ cs, ∀ n, ¬IsHexDigit c n := by
  have hread : (∃ data, decode cs = .ok data) ↔
      cs.length % 2 = 0 ∧ ∀ c ∈ cs, ∃ n, IsHexDigit c n := by
    rw [← exists_writes_iff]
    exact exists_congr fun _ ↦ decode_eq_ok_iff
  cases hdecode : decode cs with
  | ok data =>
    obtain ⟨heven, hdigits⟩ := hread.1 ⟨data, hdecode⟩
    constructor
    · rintro ⟨fault, hfault⟩
      cases hfault
    · rintro (hodd | ⟨c, hc, hno⟩)
      · cases heven.symm.trans hodd
      · obtain ⟨n, hn⟩ := hdigits c hc
        exact absurd hn (hno n)
  | error fault =>
    refine iff_of_true ⟨fault, rfl⟩ ?_
    by_contra hneither
    push Not at hneither
    obtain ⟨hnotOdd, hdigits⟩ := hneither
    have heven : cs.length % 2 = 0 := Nat.mod_two_ne_one.1 hnotOdd
    obtain ⟨data, hdata⟩ := hread.2 ⟨heven, hdigits⟩
    cases hdecode.symm.trans hdata

/-- Case does not tell texts apart. -/
theorem writes_congr (h : cs'.map Char.toLower = cs.map Char.toLower) :
    Writes cs' data ↔ Writes cs data := by
  have hlower : ∀ cs, Writes cs data ↔
      List.Forall₂ (fun c n ↦ n < 16 ∧ c = Nat.digitChar n) (cs.map Char.toLower)
        (halves data) := by
    intro cs
    rw [List.forall₂_map_left_iff]
    rfl
  rw [hlower, hlower, h]

theorem not_isBlank_of_isHexDigit {c : Char} {n : Nat} (h : IsHexDigit c n) :
    isBlank c = false := by
  obtain ⟨-, hlow, hhigh⟩ := range_of_hexValue? (hexValue?_eq_some_iff.2 h)
  exact isBlank_eq_false hlow hhigh

theorem Writes.forall_not_isBlank (h : Writes cs data) : ∀ c ∈ cs, isBlank c = false :=
  forall_mem_of_forall₂ h fun _ _ hn ↦ not_isBlank_of_isHexDigit hn

/-- Bytes are written as a text that writes them. -/
theorem writes_encodeChars (data : Bytes) : Writes (encodeChars data) data := by
  induction data with
  | nil => exact .nil
  | cons b data ih =>
    have hlt := b.toNat_lt
    have hhigh : b.toNat / 16 < 16 := by omega
    have hlow : b.toNat % 16 < 16 := by omega
    exact .cons (hexValue?_eq_some_iff.1 (hexValue?_hexDigit _ hhigh))
      (.cons (hexValue?_eq_some_iff.1 (hexValue?_hexDigit _ hlow)) ih)

end Hex

/-! ## Payloads -/

namespace PayloadSource

variable {text : String} {data data' : Bytes}

/-- The text is the digits of the byte string with blanks put in anywhere. -/
def Spells (text : String) (data : Bytes) : Prop :=
  ∃ cs, Hex.Writes cs data ∧ Spaced cs text.toList

/-- A payload in digits stands for the bytes that its text spells, wherever there is white space in
it. -/
theorem bytes_eq_ok_iff : (hex text).bytes = .ok data ↔ Spells text data := by
  constructor
  · intro h
    exact ⟨removeBlanks text.toList, Hex.decode_eq_ok_iff.1 h, spaced_removeBlanks _⟩
  · rintro ⟨cs, hwrites, hspaced⟩
    rw [bytes, hspaced.removeBlanks_eq hwrites.forall_not_isBlank, Hex.decode_eq_ok_iff]
    exact hwrites

/-- All bytes can be spelled. -/
theorem spells_encode (data : Bytes) : Spells (Hex.encode data) data := by
  refine ⟨Hex.encodeChars data, Hex.writes_encodeChars data, ?_⟩
  rw [Hex.encode, String.toList_ofList]
  exact spaced_self _

/-- Whatever the text. It is read as a byte string if and only if it is made of the byte string's
hexadecimal digits, each in either case, with white space put in anywhere. It is refused if and only
if, but for white space, the number of its characters is odd or one of them is no hexadecimal digit.
So neither spacing nor case matters to what is read, no text stands for two byte strings, and there
is a text for each. -/
theorem bytes_spelling (text : String) :
    (∀ data, (hex text).bytes = .ok data ↔ Spells text data) ∧
    ((∃ fault, (hex text).bytes = .error fault) ↔
      (removeBlanks text.toList).length % 2 = 1 ∨
        ∃ c ∈ removeBlanks text.toList, ∀ n, ¬IsHexDigit c n) ∧
    (∀ other : String,
      (removeBlanks other.toList).map Char.toLower = (removeBlanks text.toList).map Char.toLower →
      ∀ data, (hex other).bytes = .ok data ↔ (hex text).bytes = .ok data) ∧
    (∀ data data', Spells text data → Spells text data' → data = data') ∧
    ∀ data, (hex (Hex.encode data)).bytes = .ok data := by
  refine ⟨fun _ ↦ bytes_eq_ok_iff, Hex.exists_decode_eq_error_iff, ?_, ?_,
    fun data ↦ bytes_eq_ok_iff.2 (spells_encode data)⟩
  · intro other hother data
    rw [bytes, bytes, Hex.decode_eq_ok_iff, Hex.decode_eq_ok_iff]
    exact Hex.writes_congr hother
  · intro data data' h h'
    have hread := bytes_eq_ok_iff.2 h
    rw [bytes_eq_ok_iff.2 h'] at hread
    exact (Except.ok.inj hread).symm

/-- Blanks within a pair and capitals do not keep a text from being read. An odd number of digits
does, and so does a letter of two bytes, though the bytes of the text are even in number. -/
theorem bytes_spelling_scattered :
    (hex "4\u20035 0\t00A\n").bytes = .ok [0x45, 0x00, 0x0A] ∧
    (∃ fault, (hex "45 0").bytes = .error fault) ∧
    ∃ fault, (hex "45 é").bytes = .error fault := by
  obtain ⟨-, -, hsame, -, hencode⟩ := bytes_spelling (Hex.encode [0x45, 0x00, 0x0A])
  obtain ⟨-, hodd, -⟩ := bytes_spelling "45 0"
  obtain ⟨-, hletter, -⟩ := bytes_spelling "45 é"
  have hno : ∀ n, ¬IsHexDigit 'é' n := by
    intro n hn
    cases hexValue?_eq_some_iff.2 hn
  exact ⟨(hsame _ (by decide) _).2 (hencode _), hodd.2 (.inl (by decide)),
    hletter.2 (.inr ⟨'é', by decide, hno⟩)⟩

end PayloadSource

end ModemMux
