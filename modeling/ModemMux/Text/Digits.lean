import ModemMux.Text.Blank

/-!
# Digits and the integers they write

`digit?` reads one digit in a base up to sixteen, `hexDigit` writes one. `unsigned?` and `signed?`
read whole numbers: one or more decimal digits, leading zeros allowed, behind an optional sign.
-/

namespace ModemMux.Text

def hexValue? (c : Char) : Option Nat :=
  if '0' ≤ c ∧ c ≤ '9' then some (c.toNat - '0'.toNat)
  else if 'a' ≤ c ∧ c ≤ 'f' then some (c.toNat - 'a'.toNat + 10)
  else if 'A' ≤ c ∧ c ≤ 'F' then some (c.toNat - 'A'.toNat + 10)
  else none

def decimalValue? (c : Char) : Option Nat :=
  if '0' ≤ c ∧ c ≤ '9' then some (c.toNat - '0'.toNat) else none

/-- The hexadecimal digit of a value below sixteen, in lower case. -/
def hexDigit (n : Nat) : Char :=
  if n < 10 then Char.ofNat ('0'.toNat + n) else Char.ofNat ('a'.toNat + (n - 10))

theorem hexValue?_hexDigit : ∀ n < 16, hexValue? (hexDigit n) = some n := by decide

/-- The value of a non-empty run of decimal digits. -/
def decimal? : List Char → Option Nat
  | [] => none
  | cs => cs.foldlM (fun n c ↦ (decimalValue? c).map (10 * n + ·)) 0

/-- Reads a number up to `limit`, behind an optional plus sign. -/
def unsigned? (limit : Nat) (cs : List Char) : Option Nat :=
  let digits := match cs with
    | '+' :: rest => rest
    | _ => cs
  (decimal? digits).filter (· ≤ limit)

/-- Reads a number from zero to `limit`, behind an optional sign of either kind: minus zero is
zero. -/
def signed? (limit : Nat) (cs : List Char) : Option Nat :=
  match cs with
  | '-' :: rest => (decimal? rest).filter (· = 0)
  | _ => unsigned? limit cs

/-- The pieces of a text between separators, empty pieces included. -/
def fields (isSeparator : Char → Bool) : List Char → List (List Char)
  | [] => [[]]
  | c :: cs =>
    if isSeparator c then [] :: fields isSeparator cs
    else match fields isSeparator cs with
      | [] => [[c]]
      | piece :: pieces => (c :: piece) :: pieces

/-- A text without separators is one piece. -/
theorem fields_eq_singleton {isSeparator : Char → Bool} {piece : List Char}
    (h : ∀ c ∈ piece, isSeparator c = false) : fields isSeparator piece = [piece] := by
  induction piece with
  | nil => rfl
  | cons c piece ih =>
    obtain ⟨hc, hpiece⟩ := List.forall_mem_cons.1 h
    simp [fields, hc, ih hpiece]

/-- A piece ends at the first separator behind it. -/
theorem fields_append_cons {isSeparator : Char → Bool} {piece rest : List Char} {c : Char}
    (h : ∀ c ∈ piece, isSeparator c = false) (hc : isSeparator c) :
    fields isSeparator (piece ++ c :: rest) = piece :: fields isSeparator rest := by
  induction piece with
  | nil => simp [fields, hc]
  | cons d piece ih =>
    obtain ⟨hd, hpiece⟩ := List.forall_mem_cons.1 h
    simp [fields, hd, ih hpiece]

def utf8 (cs : List Char) : List UInt8 := cs.flatMap String.utf8EncodeChar

end ModemMux.Text
