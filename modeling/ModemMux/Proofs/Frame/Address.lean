import Mathlib.Data.List.Forall2
import ModemMux.Mac
import ModemMux.Proofs.Text.Digits

/-!
# Written addresses

A text is an address if colons and hyphens part it into six pieces, each of which takes two bytes
and is a number below 256 in base sixteen (`Mac.parse_eq_ok_iff`). Such a piece is two digits, or a
plus sign and one digit, and nothing else (`Mac.spells_iff_number?`). Neither the case of a digit
nor the kind of a separator changes what is read (`Mac.Writes.respell`). `Mac.parse_spelling` puts
this together.
-/

namespace ModemMux

/-! ## The pieces of a text -/

namespace Text

variable {isSeparator : Char → Bool} {pieces : List (List Char)} {cs ds : List Char}

/-- A text is these pieces with a separator between each and the next. No piece has one in it. -/
inductive Separated (isSeparator : Char → Bool) : List (List Char) → List Char → Prop where
  | last {piece : List Char} (hpiece : ∀ c ∈ piece, isSeparator c = false) :
    Separated isSeparator [piece] piece
  | next {piece rest : List Char} {pieces : List (List Char)} {c : Char}
    (hpiece : ∀ c ∈ piece, isSeparator c = false) (hc : isSeparator c)
    (hrest : Separated isSeparator pieces rest) :
    Separated isSeparator (piece :: pieces) (piece ++ c :: rest)

/-- The pieces that a text is cut into, with separators between them, are the text. -/
theorem separated_fields (isSeparator : Char → Bool) (cs : List Char) :
    Separated isSeparator (fields isSeparator cs) cs := by
  induction cs with
  | nil => exact .last (List.forall_mem_nil _)
  | cons c cs ih =>
    by_cases hc : isSeparator c
    · rw [fields, if_pos hc]
      exact .next (List.forall_mem_nil _) hc ih
    · rw [fields, if_neg hc]
      have hc : isSeparator c = false := Bool.eq_false_iff.2 hc
      -- The character joins the first piece, behind which the text may or may not go on.
      generalize fields isSeparator cs = pieces at ih
      cases ih with
      | last hpiece => exact .last (List.forall_mem_cons.2 ⟨hc, hpiece⟩)
      | @next piece _ _ _ hpiece hsep hrest =>
        have hfirst : ∀ d ∈ c :: piece, isSeparator d = false :=
          List.forall_mem_cons.2 ⟨hc, hpiece⟩
        exact .next hfirst hsep hrest

/-- There is one way to part a text at its separators. -/
theorem separated_iff_fields :
    Separated isSeparator pieces cs ↔ fields isSeparator cs = pieces := by
  constructor
  · intro h
    induction h with
    | last hpiece => exact fields_eq_singleton hpiece
    | next hpiece hc _ ih => rw [fields_append_cons hpiece hc, ih]
  · rintro rfl
    exact separated_fields isSeparator cs

/-- Texts of like characters have like pieces if separators are like separators only. -/
theorem forall₂_fields {Like : Char → Char → Prop}
    (hsep : ∀ c d, Like c d → isSeparator d = isSeparator c) (h : List.Forall₂ Like cs ds) :
    List.Forall₂ (List.Forall₂ Like) (fields isSeparator cs) (fields isSeparator ds) := by
  induction h with
  | nil => exact .cons .nil .nil
  | @cons c d cs ds hcd _ ih =>
    by_cases hc : isSeparator c
    · have hd : isSeparator d := (hsep c d hcd).trans hc
      rw [fields, fields, if_pos hc, if_pos hd]
      exact .cons .nil ih
    · have hd : ¬isSeparator d := by rwa [hsep c d hcd]
      rw [fields, fields, if_neg hc, if_neg hd]
      generalize fields isSeparator cs = pieces, fields isSeparator ds = pieces' at ih
      cases ih with
      | nil => exact .cons (.cons hcd .nil) .nil
      | cons hpiece hpieces => exact .cons (.cons hcd hpiece) hpieces

end Text

open Text

namespace Hex

variable {cs : List Char} {b : UInt8}

/-- The byte that is written in base sixteen: one or more digits of either case, behind an optional
plus sign, whose value is a byte's. -/
def number? (cs : List Char) : Option UInt8 :=
  let digits := match cs with
    | '+' :: rest => rest
    | _ => cs
  if digits.isEmpty then none
  else ((digits.foldlM (fun n c ↦ (hexValue? c).map (16 * n + ·)) 0).filter (· < 256)).map .ofNat

/-- Digits that have a value are ASCII. -/
theorem forall_lt_of_foldlM {m n : Nat}
    (h : cs.foldlM (fun n c ↦ (hexValue? c).map (16 * n + ·)) m = some n) :
    ∀ c ∈ cs, c.toNat < 128 := by
  induction cs generalizing m with
  | nil => exact List.forall_mem_nil _
  | cons c cs ih =>
    rw [List.foldlM_cons] at h
    obtain ⟨d, hd, hrest⟩ := Option.bind_eq_some_iff.1 h
    obtain ⟨v, hv, -⟩ := Option.map_eq_some_iff.1 hd
    exact List.forall_mem_cons.2 ⟨(bounds_of_hexValue? hv).2, ih hrest⟩

/-- A number has no character of more than one byte. -/
theorem length_utf8_of_number? (h : number? cs = some b) : (utf8 cs).length = cs.length := by
  apply length_utf8_of_forall_lt
  unfold number? at h
  simp only at h
  split_ifs at h
  obtain ⟨n, hn, -⟩ := Option.map_eq_some_iff.1 h
  have hdigits := forall_lt_of_foldlM (Option.filter_eq_some_iff.1 hn).1
  split at hdigits
  next => exact List.forall_mem_cons.2 ⟨by decide, hdigits⟩
  next => exact hdigits

end Hex

namespace Mac

/-! ## Octets -/

section Octets

variable {part part' : List Char} {b : UInt8}

/-- The spellings of an octet. -/
inductive Spells : List Char → UInt8 → Prop where
  | digits {hi lo : Char} {h l : Nat} {b : UInt8} (hhi : hexValue? hi = some h)
    (hlo : hexValue? lo = some l) (hb : b.toNat = 16 * h + l) : Spells [hi, lo] b
  | signed {d : Char} {b : UInt8} (hd : hexValue? d = some b.toNat) : Spells ['+', d] b

/-- An octet is spelled in two characters. -/
theorem Spells.length_eq (h : Spells part b) : part.length = 2 := by
  cases h <;> rfl

/-- The reader of one part accepts the spellings of an octet and nothing else. -/
theorem spells_iff_readOctet? : Spells part b ↔ readOctet? part = some b := by
  constructor
  · intro h
    cases h with
    | @digits hi _ _ _ _ hhi hlo hb =>
      have hsign : hi ≠ '+' := by
        rintro rfl
        cases hhi
      rw [← UInt8.ofNat_toNat (x := b), hb]
      simp [readOctet?, hhi, hlo]
    | signed hd => simp [readOctet?, hd]
  · intro h
    unfold readOctet? at h
    split at h
    next d =>
      obtain ⟨n, hn, rfl⟩ := Option.map_eq_some_iff.1 h
      have hlt : n < UInt8.size := Nat.lt_trans (bounds_of_hexValue? hn).1 (by decide)
      apply Spells.signed
      rw [hn, UInt8.toNat_ofNat_of_lt' hlt]
    next hi lo _ =>
      split at h
      next hhi hlo =>
        cases h
        exact .digits hhi hlo (UInt8.toNat_ofNat_of_lt' (pair_lt hhi hlo))
      next => cases h
    next => cases h

/-- In two characters a number in base sixteen is just what the reader of a part accepts. -/
theorem number?_eq_readOctet? (h : part.length = 2) : Hex.number? part = readOctet? part := by
  obtain ⟨hi, lo, rfl⟩ := List.length_eq_two.1 h
  by_cases hsign : hi = '+'
  · subst hsign
    cases hlo : hexValue? lo with
    | none => simp [Hex.number?, readOctet?, hlo]
    | some l =>
      have hl : l < 256 := Nat.lt_trans (bounds_of_hexValue? hlo).1 (by decide)
      simp [Hex.number?, readOctet?, hlo, Option.filter_some, hl]
  · cases hhi : hexValue? hi with
    | none => simp [Hex.number?, readOctet?, hhi, hsign]
    | some h =>
      cases hlo : hexValue? lo with
      | none => simp [Hex.number?, readOctet?, hhi, hlo, hsign]
      | some l =>
        have hlt : 16 * h + l < 256 := pair_lt hhi hlo
        simp [Hex.number?, readOctet?, hhi, hlo, hsign, Option.filter_some, hlt]

/-- The bytes of a number of two bytes are its characters. -/
theorem spells_iff_number? :
    Spells part b ↔ (utf8 part).length = 2 ∧ Hex.number? part = some b := by
  constructor
  · intro h
    have hnumber : Hex.number? part = some b := by
      rw [number?_eq_readOctet? h.length_eq, spells_iff_readOctet?.1 h]
    exact ⟨(Hex.length_utf8_of_number? hnumber).trans h.length_eq, hnumber⟩
  · rintro ⟨hlength, hnumber⟩
    rw [Hex.length_utf8_of_number? hnumber] at hlength
    rw [number?_eq_readOctet? hlength] at hnumber
    exact spells_iff_readOctet?.2 hnumber

end Octets

/-! ## Addresses -/

variable {text text' : String} {m : Mac}

/-- A text is an address, one part for each of its six octets between colons or hyphens: the part
takes two bytes and is the octet as a number in base sixteen. -/
def Writes (text : String) (m : Mac) : Prop :=
  ∃ parts, Separated isSeparator parts text.toList ∧
    List.Forall₂ (fun part b ↦ (utf8 part).length = 2 ∧ Hex.number? part = some b) parts m.octets

/-- A list is read if each of its items is. -/
theorem mapM_eq_some_iff {α β : Type} {f : α → Option β} {as : List α} {bs : List β} :
    as.mapM f = some bs ↔ List.Forall₂ (fun a b ↦ f a = some b) as bs := by
  induction as generalizing bs with
  | nil => simp [eq_comm]
  | cons a as ih =>
    rw [List.forall₂_cons_left_iff, List.mapM_cons]
    simp only [Option.bind_eq_bind, Option.bind_eq_some_iff, ih]
    constructor
    · rintro ⟨b, hb, bs, hbs, heq⟩
      exact ⟨b, bs, hb, hbs, (Option.some.inj heq).symm⟩
    · rintro ⟨b, bs, hb, hbs, rfl⟩
      exact ⟨b, hb, bs, hbs, rfl⟩

/-- A text writes an address if and only if its pieces spell the six octets. -/
theorem writes_iff_spells :
    Writes text m ↔ List.Forall₂ Spells (fields isSeparator text.toList) m.octets := by
  simp only [Writes, separated_iff_fields, exists_eq_left', ← spells_iff_number?]

/-- The reader accepts the texts that write an address, and reads the address that they write. -/
theorem parse_eq_ok_iff : parse text = .ok m ↔ Writes text m := by
  have hparts : ofParts? (fields isSeparator text.toList) = some m ↔ Writes text m := by
    rw [writes_iff_spells, ofParts?, Option.bind_eq_some_iff]
    simp only [mapM_eq_some_iff, ofOctets?_eq_some_iff, exists_eq_right, ← spells_iff_readOctet?]
  rw [← hparts, parse]
  split
  next h => simp [h]
  next h => simp [h]

/-- A text is refused if it writes no address, and the fault carries the whole text. -/
theorem parse_eq_error_iff {fault : FrameError} :
    parse text = .error fault ↔ fault = .invalidMac text ∧ ∀ m, ¬Writes text m := by
  simp only [← parse_eq_ok_iff]
  unfold parse
  split <;> simp [eq_comm]

/-! ## Other spellings -/

/-- The characters that a character of a written address may be replaced by. -/
def Respells (c d : Char) : Prop := d = c ∨ d = c.toUpper ∨ c = ':' ∧ d = '-'

instance (c d : Char) : Decidable (Respells c d) :=
  inferInstanceAs (Decidable (d = c ∨ d = c.toUpper ∨ c = ':' ∧ d = '-'))

/-- A separator is replaced by separators only. -/
theorem isSeparator_of_respells (c d : Char) (h : Respells c d) :
    isSeparator d = isSeparator c := by
  rcases h with rfl | rfl | ⟨rfl, rfl⟩
  · rfl
  · exact apply_toUpper (by decide) c
  · rfl

/-- A digit is replaced by digits of its value only. -/
theorem hexValue?_of_respells {c d : Char} (h : Respells c d) : hexValue? d = hexValue? c := by
  rcases h with rfl | rfl | ⟨rfl, rfl⟩
  · rfl
  · exact apply_toUpper (by decide) c
  · rfl

/-- A plus sign is replaced by nothing else. -/
theorem eq_plus_of_respells {d : Char} (h : Respells '+' d) : d = '+' := by
  rcases h with rfl | rfl | ⟨hcolon, -⟩
  · rfl
  · rfl
  · exact absurd hcolon (by decide)

/-- An octet spelled otherwise is the same octet. -/
theorem Spells.respell {part part' : List Char} {b : UInt8} (h : Spells part b)
    (hpart : List.Forall₂ Respells part part') : Spells part' b := by
  cases h with
  | digits hhi hlo hb =>
    obtain _ | ⟨hhi', hrest⟩ := hpart
    obtain _ | ⟨hlo', ⟨⟩⟩ := hrest
    rw [← hexValue?_of_respells hhi'] at hhi
    rw [← hexValue?_of_respells hlo'] at hlo
    exact .digits hhi hlo hb
  | signed hd =>
    obtain _ | ⟨hsign, hrest⟩ := hpart
    obtain _ | ⟨hd', ⟨⟩⟩ := hrest
    obtain rfl := eq_plus_of_respells hsign
    rw [← hexValue?_of_respells hd'] at hd
    exact .signed hd

/-- An address written otherwise is the same address. -/
theorem Writes.respell (h : Writes text m)
    (htext : List.Forall₂ Respells text.toList text'.toList) : Writes text' m := by
  rw [writes_iff_spells] at h ⊢
  have hparts := forall₂_fields isSeparator_of_respells htext
  generalize fields isSeparator text.toList = parts, fields isSeparator text'.toList = parts',
    m.octets = bytes at h hparts
  induction h generalizing parts' with
  | nil =>
    cases hparts
    exact .nil
  | cons hpart _ ih =>
    cases hparts with
    | cons hpart' hparts => exact .cons (hpart.respell hpart') (ih _ hparts)

/-! ## The law -/

/-- Whatever the text. It is read as an address if and only if it writes that address, octet by
octet, in parts of two bytes that are numbers in base sixteen; and such a part is two digits, or a
plus sign and one digit. A text that writes none is refused, and the fault names it. An address is
read from the text that it is displayed as, and from that text with any letters made capitals and
any colons made hyphens. -/
theorem parse_spelling (text : String) :
    (∀ m, parse text = .ok m ↔ Writes text m) ∧
    (∀ part b, (utf8 part).length = 2 ∧ Hex.number? part = some b ↔ Spells part b) ∧
    (∀ fault, parse text = .error fault ↔ fault = .invalidMac text ∧ ∀ m, ¬Writes text m) ∧
    (∀ m : Mac, parse m.display = .ok m) ∧
    ∀ m : Mac, List.Forall₂ Respells m.display.toList text.toList → parse text = .ok m := by
  refine ⟨fun _ ↦ parse_eq_ok_iff, fun _ _ ↦ spells_iff_number?.symm,
    fun _ ↦ parse_eq_error_iff, parse_display, ?_⟩
  intro m htext
  have hdisplay : Writes m.display m := parse_eq_ok_iff.1 (parse_display m)
  exact parse_eq_ok_iff.2 (hdisplay.respell htext)

/-- A sign, capitals and both separators do not keep a text from being read. A character of two
bytes does, in the place of an octet. -/
theorem parse_spelling_mixed :
    parse "+a-0B:cD-Ef:00-+7" = .ok ⟨0x0A, 0x0B, 0xCD, 0xEF, 0, 7⟩ ∧
    parse "é-0B:cD-Ef:00-+7" = .error (.invalidMac "é-0B:cD-Ef:00-+7") ∧
    List.Forall₂ Respells (display ⟨2, 0, 0x5E, 0x10, 0, 0xAF⟩).toList "02-00:5E-10:00-aF".toList ∧
      parse "02-00:5E-10:00-aF" = .ok ⟨2, 0, 0x5E, 0x10, 0, 0xAF⟩ := by
  have hrespells : List.Forall₂ Respells (display ⟨2, 0, 0x5E, 0x10, 0, 0xAF⟩).toList
    "02-00:5E-10:00-aF".toList := by decide
  have hnone : Hex.number? ['é'] = none := by decide
  obtain ⟨hread, -⟩ := parse_spelling "+a-0B:cD-Ef:00-+7"
  obtain ⟨-, -, hrefused, -⟩ := parse_spelling "é-0B:cD-Ef:00-+7"
  obtain ⟨-, -, -, -, hrespelled⟩ := parse_spelling "02-00:5E-10:00-aF"
  refine ⟨(hread _).2 ⟨_, separated_fields _ _, by decide⟩, ?_, hrespells,
    hrespelled _ hrespells⟩
  refine (hrefused _).2 ⟨rfl, ?_⟩
  rintro m ⟨parts, hparts, hoctets⟩
  obtain rfl := separated_iff_fields.1 hparts
  cases hoctets with
  | cons hfirst _ => cases hnone.symm.trans hfirst.2

end Mac

end ModemMux
