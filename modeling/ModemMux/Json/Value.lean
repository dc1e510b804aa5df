/-!
# JSON documents

A document is kept as it was written: an escaped character stays an escape and a number keeps its
digits, so that what a reader must refuse can be told from what it may ignore.
-/

namespace ModemMux

inductive JsonChar where
  /-- A character as it stands, or behind a backslash. -/
  | plain (c : Char)
  /-- A UTF-16 unit given by its four hexadecimal digits. -/
  | unit (code : Nat)
  deriving DecidableEq, Repr

/-- A JSON string before its escaped units are put together. -/
abbrev JsonText := List JsonChar

/-- A JSON number as written. The lists hold the values of decimal digits. -/
structure Numeral where
  negative : Bool
  whole : List Nat
  /-- The digits after the point; none if there is no point. -/
  fraction : List Nat
  /-- The power of ten: whether it is negative, and its digits. -/
  exponent : Option (Bool × List Nat)
  deriving DecidableEq, Repr

/-- A JSON value. The members of an object are in the order in which they were written. -/
inductive Json where
  | null
  | bool (b : Bool)
  | number (n : Numeral)
  | text (s : JsonText)
  | array (items : List Json)
  | object (members : List (JsonText × Json))
  deriving Repr, Inhabited

namespace JsonText

/-- A string in which nothing is escaped. -/
def ofString (s : String) : JsonText := s.toList.map .plain

/-- The character of a pair of surrogate units. -/
def ofSurrogates? (hi lo : Nat) : Option Char :=
  if 0xD800 ≤ hi ∧ hi < 0xDC00 ∧ 0xDC00 ≤ lo ∧ lo < 0xE000 then
    some (Char.ofNat (0x10000 + 1024 * (hi - 0xD800) + (lo - 0xDC00)))
  else none

/-- The character of a unit that is no surrogate. -/
def ofUnit? (code : Nat) : Option Char :=
  if 0xD800 ≤ code ∧ code < 0xE000 then none else some (Char.ofNat code)

/-- The characters of a string: a pair of surrogate units is one character, and a surrogate without
its other half is none. -/
def chars? : JsonText → Option (List Char)
  | [] => some []
  | .plain c :: rest => (chars? rest).map (c :: ·)
  | .unit hi :: .unit lo :: rest =>
    match ofUnit? hi with
    | some c => (chars? (.unit lo :: rest)).map (c :: ·)
    | none =>
      match ofSurrogates? hi lo with
      | some c => (chars? rest).map (c :: ·)
      | none => none
  | .unit code :: rest =>
    match ofUnit? code with
    | some c => (chars? rest).map (c :: ·)
    | none => none

/-- The string, if it has no lone surrogate. -/
def string? (s : JsonText) : Option String := s.chars?.map String.ofList

end JsonText

namespace Numeral

def ofDigits (digits : List Nat) : Nat := digits.foldl (fun n d ↦ 10 * n + d) 0

def digits (n : Nat) : List Nat := (Nat.toDigits 10 n).map fun c ↦ c.toNat - '0'.toNat

def ofNat (n : Nat) : Numeral := ⟨false, digits n, [], none⟩

def ofInt (n : Int) : Numeral := ⟨n < 0, digits n.natAbs, [], none⟩

/-- The value of a number that is written without sign, point and power of ten. -/
def nat? (n : Numeral) : Option Nat :=
  if n.negative = false ∧ n.fraction = [] ∧ n.exponent = none then some (ofDigits n.whole) else none

end Numeral

namespace Json

def nat (n : Nat) : Json := .number (.ofNat n)

def int (n : Int) : Json := .number (.ofInt n)

def string (s : String) : Json := .text (.ofString s)

/-- An object with unescaped names. -/
def record (members : List (String × Json)) : Json :=
  .object (members.map fun m ↦ (JsonText.ofString m.1, m.2))

def nullable (value? : Option Json) : Json := value?.getD .null

end Json

end ModemMux
