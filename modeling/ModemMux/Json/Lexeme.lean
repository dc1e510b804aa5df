import ModemMux.Json.Value
import ModemMux.Text.Digits

/-!
# The lexemes of JSON

Text is read one character at a time; `Pending` is what stands open after a character. Numbers and
words end where a character no longer belongs to them, strings at their closing quote.
-/

namespace ModemMux

open Text

inductive Lexeme where
  | openArray
  | closeArray
  | openObject
  | closeObject
  | colon
  | comma
  | null
  | bool (b : Bool)
  | number (n : Numeral)
  | text (s : JsonText)
  deriving DecidableEq, Repr

namespace Numeral

/-- The digits at the start of a text, and what follows them. -/
def spanDigits (cs : List Char) : List Nat × List Char :=
  ((cs.takeWhile (·.isDigit)).filterMap decimalValue?, cs.dropWhile (·.isDigit))

/-- The digits after a point, which must not be missing. Without a point there are none. -/
def fraction? : List Char → Option (List Nat × List Char)
  | '.' :: cs =>
    match spanDigits cs with
    | ([], _) => none
    | found => some found
  | cs => some ([], cs)

def exponent? : List Char → Option (Option (Bool × List Nat))
  | [] => some none
  | c :: cs =>
    if c = 'e' ∨ c = 'E' then
      let (negative, rest) := match cs with
        | '-' :: rest => (true, rest)
        | '+' :: rest => (false, rest)
        | _ => (false, cs)
      match spanDigits rest with
      | (d :: ds, []) => some (some (negative, d :: ds))
      | _ => none
    else none

/-- The number that a text writes. No number but zero starts with the digit zero. -/
def ofChars? (cs : List Char) : Option Numeral :=
  let (negative, cs) := match cs with
    | '-' :: rest => (true, rest)
    | _ => (false, cs)
  match spanDigits cs with
  | ([], _) | (0 :: _ :: _, _) => none
  | (whole, cs) =>
    match fraction? cs with
    | none => none
    | some (fraction, cs) => (exponent? cs).map fun e ↦ ⟨negative, whole, fraction, e⟩

end Numeral

namespace Lexeme

def ofWord? (cs : List Char) : Option Lexeme :=
  if cs = "null".toList then some .null
  else if cs = "true".toList then some (.bool true)
  else if cs = "false".toList then some (.bool false)
  else none

/-- What stands open between two characters. The texts are in reverse. -/
inductive Pending where
  /-- Nothing. -/
  | nothing
  | string (done : JsonText)
  /-- A string after a backslash. -/
  | escape (done : JsonText)
  /-- A string after the start of a unit, with the digits so far. -/
  | unit (done : JsonText) (digits : List Nat)
  | number (done : List Char)
  | word (done : List Char)

def isNumberChar (c : Char) : Bool :=
  c.isDigit || c == '-' || c == '+' || c == '.' || c == 'e' || c == 'E'

/-- The character behind a backslash. -/
def escaped? : Char → Option Char
  | '"' => some '"'
  | '\\' => some '\\'
  | '/' => some '/'
  | 'b' => some '\x08'
  | 'f' => some '\x0c'
  | 'n' => some '\n'
  | 'r' => some '\r'
  | 't' => some '\t'
  | _ => none

/-- A character where nothing stands open. -/
def start (c : Char) : Option (List Lexeme × Pending) :=
  match c with
  | ' ' | '\t' | '\n' | '\r' => some ([], .nothing)
  | '[' => some ([.openArray], .nothing)
  | ']' => some ([.closeArray], .nothing)
  | '\x7b' => some ([.openObject], .nothing)
  | '\x7d' => some ([.closeObject], .nothing)
  | ':' => some ([.colon], .nothing)
  | ',' => some ([.comma], .nothing)
  | '"' => some ([], .string [])
  | _ =>
    if c == '-' || c.isDigit then some ([], .number [c])
    else if c.isLower then some ([], .word [c])
    else none

/-- A character after a complete lexeme, if it is one. -/
def startAfter (lexeme? : Option Lexeme) (c : Char) : Option (List Lexeme × Pending) :=
  match lexeme?, start c with
  | some lexeme, some (lexemes, pending) => some (lexeme :: lexemes, pending)
  | _, _ => none

/-- One more character: the lexemes that it completes, and what stands open after it. A string
holds no control characters. -/
def step (c : Char) : Pending → Option (List Lexeme × Pending)
  | .nothing => start c
  | .string done =>
    if c = '"' then some ([.text done.reverse], .nothing)
    else if c = '\\' then some ([], .escape done)
    else if c.toNat < 0x20 then none
    else some ([], .string (.plain c :: done))
  | .escape done =>
    if c = 'u' then some ([], .unit done [])
    else (escaped? c).map fun e ↦ ([], .string (.plain e :: done))
  | .unit done digits =>
    match hexValue? c with
    | none => none
    | some d =>
      if digits.length < 3 then some ([], .unit done (digits ++ [d]))
      else
        let code := (digits ++ [d]).foldl (fun n d ↦ 16 * n + d) 0
        some ([], .string (.unit code :: done))
  | .number done =>
    if isNumberChar c then some ([], .number (c :: done))
    else startAfter ((Numeral.ofChars? done.reverse).map .number) c
  | .word done =>
    if c.isLower then some ([], .word (c :: done)) else startAfter (ofWord? done.reverse) c

/-- What stands open at the end of the text: a number or a word is complete, a string is not. -/
def finish : Pending → Option (List Lexeme)
  | .nothing => some []
  | .number done => (Numeral.ofChars? done.reverse).map fun n ↦ [.number n]
  | .word done => (ofWord? done.reverse).map fun w ↦ [w]
  | .string _ | .escape _ | .unit _ _ => none

/-- The lexemes of a text, behind those already `found`, which are in reverse. -/
def ofCharsFrom (found : List Lexeme) (pending : Pending) : List Char → Option (List Lexeme)
  | [] => (finish pending).map fun last ↦ found.reverse ++ last
  | c :: cs =>
    match step c pending with
    | none => none
    | some (lexemes, pending) => ofCharsFrom (lexemes.reverse ++ found) pending cs

/-- The lexemes of a text. -/
def ofChars? (cs : List Char) : Option (List Lexeme) := ofCharsFrom [] .nothing cs

end Lexeme

end ModemMux
