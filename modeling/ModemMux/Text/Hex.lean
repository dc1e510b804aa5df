import ModemMux.Bytes
import ModemMux.Text.Quoted

/-!
# Bytes as hexadecimal text

Two digits stand for a byte, the more significant first. `encode` writes lower case, `decode` reads
either case and says what is wrong with a text that is no such pairs.
-/

namespace ModemMux.Hex

open Text

/-- What keeps a text from being read as bytes. -/
inductive Fault where
  /-- A byte is left without its second digit. -/
  | oddLength
  /-- The byte at this position of the text is no digit; it is shown as the character with the
  byte's value. -/
  | badDigit (char : Char) (position : Nat)
  deriving DecidableEq, Repr

def Fault.message : Fault → String
  | .oddLength => "Odd number of digits"
  | .badDigit c position => s!"Invalid character {quoteLatin c} at position {position}"

def encodeByte (b : UInt8) : List Char := [hexDigit (b.toNat / 16), hexDigit (b.toNat % 16)]

def encodeChars (data : Bytes) : List Char := data.flatMap encodeByte

def encode (data : Bytes) : String := String.ofList (encodeChars data)

/-- The value of the digit that a byte of the text stands for. -/
def value? (b : UInt8) : Option Nat := hexValue? (Char.ofNat b.toNat)

/-- The byte whose digits are `hi` and `lo`, the first of them at `position`. -/
def decodePair (position : Nat) (hi lo : UInt8) : Except Fault UInt8 :=
  match value? hi, value? lo with
  | none, _ => .error (.badDigit (Char.ofNat hi.toNat) position)
  | some _, none => .error (.badDigit (Char.ofNat lo.toNat) (position + 1))
  | some h, some l => .ok (UInt8.ofNat (16 * h + l))

/-- Reads the pairs of digits from `position` on. -/
def decodeFrom (position : Nat) : Bytes → Except Fault Bytes
  | [] => .ok []
  | [_] => .error .oddLength
  | hi :: lo :: rest =>
    match decodePair position hi lo with
    | .error fault => .error fault
    | .ok b =>
      match decodeFrom (position + 2) rest with
      | .error fault => .error fault
      | .ok data => .ok (b :: data)

/-- Reads bytes from text. A text of odd length is refused before its digits are looked at. -/
def decode (cs : List Char) : Except Fault Bytes :=
  if (utf8 cs).length % 2 = 1 then .error .oddLength else decodeFrom 0 (utf8 cs)

end ModemMux.Hex
