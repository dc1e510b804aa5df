import ModemMux.Text.Digits

/-!
# Quoted characters

A character of the first 256 within single quotes, as messages show it: printable ones as they
stand, the quote and the backslash behind a backslash, the common control characters by their
letter, and the others by their code.
-/

namespace ModemMux.Text

/-- Whether one of the first 256 characters has a glyph of its own: not the control characters,
not the no-break space and not the soft hyphen. -/
def isLatinPrintable (c : Char) : Bool :=
  let n := c.toNat
  0x20 ≤ n && n < 0x7F || 0xA1 ≤ n && n ≤ 0xFF && n != 0xAD

def latinCode (n : Nat) : List Char :=
  if n < 16 then [hexDigit n] else [hexDigit (n / 16), hexDigit (n % 16)]

/-- What stands for a character between single quotes. -/
def escapeLatin (c : Char) : List Char :=
  match c with
  | '\x00' => ['\\', '0']
  | '\t' => ['\\', 't']
  | '\r' => ['\\', 'r']
  | '\n' => ['\\', 'n']
  | '\'' => ['\\', '\'']
  | '\\' => ['\\', '\\']
  | _ =>
    if isLatinPrintable c then [c]
    else ['\\', 'u', '\x7b'] ++ latinCode c.toNat ++ ['\x7d']

def quoteLatin (c : Char) : String := String.ofList ('\'' :: escapeLatin c ++ ['\''])

end ModemMux.Text
