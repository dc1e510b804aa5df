import ModemMux.Json.Value
import ModemMux.Text.Digits

/-!
# Writing JSON

Documents are written without blanks. A string escapes the quote, the backslash and the control
characters, those of them that have a letter by that letter.
-/

namespace ModemMux

open Text

def JsonText.unitDigits (code : Nat) : List Char :=
  [hexDigit (code / 4096 % 16), hexDigit (code / 256 % 16), hexDigit (code / 16 % 16),
    hexDigit (code % 16)]

def JsonChar.render : JsonChar → List Char
  | .unit code => '\\' :: 'u' :: JsonText.unitDigits code
  | .plain c =>
    match c with
    | '"' => ['\\', '"']
    | '\\' => ['\\', '\\']
    | '\x08' => ['\\', 'b']
    | '\x0c' => ['\\', 'f']
    | '\n' => ['\\', 'n']
    | '\r' => ['\\', 'r']
    | '\t' => ['\\', 't']
    | _ => if c.toNat < 0x20 then '\\' :: 'u' :: JsonText.unitDigits c.toNat else [c]

def JsonText.render (s : JsonText) : String :=
  String.ofList ('"' :: s.flatMap JsonChar.render ++ ['"'])

def Numeral.render (n : Numeral) : String :=
  let digits (ds : List Nat) : List Char := ds.map hexDigit
  let sign (negative : Bool) : List Char := if negative then ['-'] else []
  let fraction := if n.fraction = [] then [] else '.' :: digits n.fraction
  let exponent := match n.exponent with
    | none => []
    | some (negative, ds) => 'e' :: sign negative ++ digits ds
  String.ofList (sign n.negative ++ digits n.whole ++ fraction ++ exponent)

namespace Json

mutual

def render : Json → String
  | .null => "null"
  | .bool b => if b then "true" else "false"
  | .number n => n.render
  | .text s => s.render
  | .array items => "[" ++ ",".intercalate (renderItems items) ++ "]"
  | .object members => "\x7b" ++ ",".intercalate (renderMembers members) ++ "\x7d"

def renderItems : List Json → List String
  | [] => []
  | v :: vs => v.render :: renderItems vs

def renderMembers : List (JsonText × Json) → List String
  | [] => []
  | (key, v) :: rest => (key.render ++ ":" ++ v.render) :: renderMembers rest

end

end Json

end ModemMux
