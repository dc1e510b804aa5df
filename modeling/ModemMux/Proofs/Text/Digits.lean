import Mathlib.Tactic.SplitIfs
import ModemMux.Text.Digits

/-!
# Digits and what they write

A decimal digit is one in the sense of `Char.isDigit`, and a run of them writes the number
`Nat.ofDigitChars 10` (`decimal?_eq_some_iff`). `Number` adds the sign, and is just what a reader of
numbers accepts up to its limit (`unsigned?_eq_some_iff`). A hexadecimal digit is a character whose
lower case is `Nat.digitChar` of a number below sixteen (`hexValue?_eq_some_iff`). All of them are
ASCII, and ASCII text is its own encoding (`utf8_eq_map`).
-/

namespace ModemMux.Text

variable {c hi lo : Char} {cs : List Char} {limit n h l : Nat}

/-! ## Decimal numbers -/

/-- The program's value of a decimal digit is the one that core knows. -/
theorem decimalValue?_eq (c : Char) :
    decimalValue? c = if c.isDigit then some (c.toNat - '0'.toNat) else none := by
  have hrange : c.isDigit ↔ '0' ≤ c ∧ c ≤ '9' := by
    rw [Char.isDigit, Bool.and_eq_true, decide_eq_true_eq, decide_eq_true_eq]
    rfl
  simp only [decimalValue?, hrange]

/-- Digits read one by one add up to their positional value, behind the `m` that was read before. -/
theorem foldlM_decimal_eq_some_iff {m : Nat} :
    cs.foldlM (fun n c ↦ (decimalValue? c).map (10 * n + ·)) m = some n ↔
      (∀ c ∈ cs, c.isDigit) ∧ Nat.ofDigitChars 10 cs m = n := by
  induction cs generalizing m with
  | nil => simp
  | cons c cs ih =>
    rw [List.foldlM_cons, List.forall_mem_cons, Nat.ofDigitChars_cons, decimalValue?_eq]
    by_cases hc : c.isDigit
    · simp only [hc, if_true, Option.map_some, Option.bind_eq_bind, Option.bind_some, ih, true_and]
    · simp [hc]

/-- A number is read from one or more digits and from nothing else. -/
theorem decimal?_eq_some_iff : decimal? cs = some n ↔
    cs ≠ [] ∧ (∀ c ∈ cs, c.isDigit) ∧ Nat.ofDigitChars 10 cs 0 = n := by
  cases cs with
  | nil => simp [decimal?]
  | cons c cs =>
    have hfold : decimal? (c :: cs) =
        (c :: cs).foldlM (fun n c ↦ (decimalValue? c).map (10 * n + ·)) 0 := rfl
    rw [hfold, foldlM_decimal_eq_some_iff]
    simp

/-- The spellings of a number: one or more decimal digits, behind an optional plus sign. -/
inductive Number : List Char → Nat → Prop where
  | plain {digits : List Char} (hne : digits ≠ []) (hdigits : ∀ c ∈ digits, c.isDigit) :
    Number digits (Nat.ofDigitChars 10 digits 0)
  | plus {digits : List Char} (hne : digits ≠ []) (hdigits : ∀ c ∈ digits, c.isDigit) :
    Number ('+' :: digits) (Nat.ofDigitChars 10 digits 0)

/-- The reader accepts the spellings of the numbers up to the limit. -/
theorem unsigned?_eq_some_iff : unsigned? limit cs = some n ↔ Number cs n ∧ n ≤ limit := by
  unfold unsigned?
  simp only [Option.filter_eq_some_iff, decimal?_eq_some_iff, decide_eq_true_eq]
  constructor
  · split
    next =>
      rintro ⟨⟨hne, hdigits, rfl⟩, hle⟩
      exact ⟨.plus hne hdigits, hle⟩
    next =>
      rintro ⟨⟨hne, hdigits, rfl⟩, hle⟩
      exact ⟨.plain hne hdigits, hle⟩
  · rintro ⟨hnumber, hle⟩
    cases hnumber with
    | plain hne hdigits =>
      split
      next => exact absurd (hdigits '+' List.mem_cons_self) (by decide)
      next => exact ⟨⟨hne, hdigits, rfl⟩, hle⟩
    | plus hne hdigits => exact ⟨⟨hne, hdigits, rfl⟩, hle⟩

namespace Number

/-- A number is spelled in digits and at most a sign. -/
theorem forall_mem (h : Number cs n) : ∀ c ∈ cs, c = '+' ∨ c.isDigit := by
  cases h with
  | plain _ hdigits => exact fun c hc ↦ .inr (hdigits c hc)
  | plus _ hdigits => exact List.forall_mem_cons.2 ⟨.inl rfl, fun c hc ↦ .inr (hdigits c hc)⟩

/-- A number ends in a digit. -/
theorem exists_concat (h : Number cs n) : ∃ front c, cs = front ++ [c] ∧ c.isDigit := by
  cases h with
  | plain hne hdigits =>
    exact ⟨_, _, (List.dropLast_concat_getLast hne).symm, hdigits _ (List.getLast_mem hne)⟩
  | @plus digits hne hdigits =>
    refine ⟨'+' :: digits.dropLast, _, ?_, hdigits _ (List.getLast_mem hne)⟩
    rw [List.cons_append, List.dropLast_concat_getLast hne]

end Number

/-! ## Hexadecimal digits -/

theorem range_of_hexValue? (h : hexValue? c = some n) :
    n < 16 ∧ 0x20 < c.toNat ∧ c.toNat < 0x7F := by
  simp only [hexValue?, Char.le_def, UInt32.le_iff_toNat_le, Char.toNat_val, ↓Char.isValue,
    Char.reduceToNat] at h
  split_ifs at h <;> cases h <;> omega

/-- A digit of base sixteen is worth less than sixteen and is ASCII. -/
theorem bounds_of_hexValue? (h : hexValue? c = some n) : n < 16 ∧ c.toNat < 128 := by
  obtain ⟨hn, -, hhigh⟩ := range_of_hexValue? h
  exact ⟨hn, Nat.lt_trans hhigh (by decide)⟩

/-- Two digits of base sixteen make a byte. -/
theorem pair_lt (hhi : hexValue? hi = some h) (hlo : hexValue? lo = some l) :
    16 * h + l < 256 := by
  have := (bounds_of_hexValue? hhi).1
  have := (bounds_of_hexValue? hlo).1
  omega

/-- What is the same of each small letter and its capital is the same of any character. -/
theorem apply_toUpper {α : Type} {f : Char → α}
    (h : ∀ n < 26, f (Char.ofNat ('a'.toNat + n)).toUpper = f (.ofNat ('a'.toNat + n)))
    (c : Char) : f c.toUpper = f c := by
  by_cases hc : 'a'.val ≤ c.val ∧ c.val ≤ 'z'.val
  · obtain ⟨hlow, hhigh⟩ := hc
    obtain ⟨n, hn⟩ : ∃ n, 'a'.toNat + n = c.toNat := Nat.le.dest (UInt32.le_iff_toNat_le.1 hlow)
    have hlt : 'a'.toNat + n ≤ 'z'.toNat := by
      rw [hn]
      exact UInt32.le_iff_toNat_le.1 hhigh
    have hletter := h n (Nat.lt_of_add_lt_add_left (Nat.lt_succ_of_le hlt))
    rwa [hn, Char.ofNat_toNat] at hletter
  · have hsame : c.toUpper = c := dif_neg hc
    rw [hsame]

/-- The character, in either case, is the hexadecimal digit of a number. -/
def IsHexDigit (c : Char) (n : Nat) : Prop := n < 16 ∧ c.toLower = Nat.digitChar n

/-- A capital is ASCII, and so is its small letter. -/
theorem lt_of_toLower_lt (h : c.toLower.toNat < 128) : c.toNat < 128 := by
  by_cases hc : c.val ≥ 'A'.val ∧ c.val ≤ 'Z'.val
  · exact Nat.lt_of_le_of_lt (UInt32.le_iff_toNat_le.1 hc.2) (by decide)
  · have hsame : c.toLower = c := dif_neg hc
    rwa [hsame] at h

theorem toNat_digitChar_lt : ∀ n < 16, (Nat.digitChar n).toNat < 128 := by decide

theorem hexValue?_ascii : ∀ m < 128, ∀ n < 16,
    hexValue? (.ofNat m) = some n ↔ (Char.ofNat m).toLower = Nat.digitChar n := by
  decide +kernel

/-- The reader of a digit accepts either case. -/
theorem hexValue?_eq_some_iff : hexValue? c = some n ↔ IsHexDigit c n := by
  constructor
  · intro hvalue
    obtain ⟨hn, hc⟩ := bounds_of_hexValue? hvalue
    have hascii := hexValue?_ascii c.toNat hc n hn
    rw [Char.ofNat_toNat] at hascii
    exact ⟨hn, hascii.1 hvalue⟩
  · rintro ⟨hn, hlower⟩
    have hc : c.toNat < 128 := lt_of_toLower_lt (hlower ▸ toNat_digitChar_lt n hn)
    have hascii := hexValue?_ascii c.toNat hc n hn
    rw [Char.ofNat_toNat] at hascii
    exact hascii.2 hlower

/-! ## ASCII -/

theorem utf8EncodeChar_of_lt (h : c.toNat < 128) :
    String.utf8EncodeChar c = [UInt8.ofNat c.toNat] :=
  if_pos (Nat.le_of_lt_succ h)

/-- In ASCII the bytes of a text are its characters, one by one. -/
theorem utf8_eq_map (h : ∀ c ∈ cs, c.toNat < 128) :
    utf8 cs = cs.map fun c ↦ UInt8.ofNat c.toNat := by
  induction cs with
  | nil => rfl
  | cons c cs ih =>
    obtain ⟨hc, hcs⟩ := List.forall_mem_cons.1 h
    have hrest := ih hcs
    unfold utf8 at hrest ⊢
    rw [List.flatMap_cons, utf8EncodeChar_of_lt hc, hrest]
    rfl

/-- In ASCII a text has as many bytes as characters. -/
theorem length_utf8_of_forall_lt (h : ∀ c ∈ cs, c.toNat < 128) : (utf8 cs).length = cs.length := by
  rw [utf8_eq_map h, List.length_map]

/-- A character that is not ASCII has a byte that is not ASCII: its last. -/
theorem exists_le_of_le (h : 128 ≤ c.toNat) : ∃ b ∈ String.utf8EncodeChar c, 128 ≤ b.toNat := by
  refine ⟨UInt8.ofNat (c.toNat % 64 + 128), ?_, ?_⟩
  · unfold String.utf8EncodeChar
    simp only [Char.toNat_val]
    rw [if_neg (Nat.not_le.2 h)]
    split_ifs <;> simp
  · have hlt : c.toNat % 64 + 128 < 256 := by omega
    rw [UInt8.toNat_ofNat_of_lt' hlt]
    exact Nat.le_add_left 128 _

/-- A text whose bytes are ASCII is ASCII. -/
theorem forall_lt_of_utf8 (h : ∀ b ∈ utf8 cs, b.toNat < 128) : ∀ c ∈ cs, c.toNat < 128 := by
  intro c hc
  refine Nat.lt_of_not_le fun hlarge ↦ ?_
  obtain ⟨b, hb, hle⟩ := exists_le_of_le hlarge
  exact Nat.not_lt.2 hle (h b (List.mem_flatMap.2 ⟨c, hc, hb⟩))

end ModemMux.Text
