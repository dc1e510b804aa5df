import ModemMux.Text.Blank
import ModemMux.Text.Digits

/-!
# Time limits

A time limit is a positive whole number, of seconds unless `ms` follows it. Durations are written in
the larger unit that leaves a whole number before the point.
-/

namespace ModemMux

structure Duration where
  milliseconds : Nat
  deriving DecidableEq, Repr

inductive TimeoutFault where
  | empty
  /-- The text, without blanks at its ends, is no number with a unit. -/
  | malformed (text : String)
  | zero
  deriving DecidableEq, Repr

def TimeoutFault.message : TimeoutFault → String
  | .empty => "timeout must not be empty"
  | .malformed text => s!"invalid timeout value: {text}"
  | .zero => "timeout must be greater than zero"

namespace Duration

def greatest : Nat := UInt64.size - 1

/-- Takes the unit off a time limit: what stands before it, and the unit's milliseconds. -/
def cutUnit (cs : List Char) : List Char × Nat :=
  match cs.reverse with
  | 's' :: 'm' :: number => (number.reverse, 1)
  | 's' :: number => (number.reverse, 1000)
  | _ => (cs, 1000)

def parse (text : String) : Except TimeoutFault Duration :=
  match Text.trim text.toList with
  | [] => .error .empty
  | cs =>
    match Text.unsigned? greatest (cutUnit cs).1 with
    | none => .error (.malformed (String.ofList cs))
    | some 0 => .error .zero
    | some n => .ok ⟨n * (cutUnit cs).2⟩

/-- The digits of thousandths behind a point, without zeros at the end; no point if there are
none. -/
def thousandths (n : Nat) : List Char :=
  if n = 0 then []
  else
    let digits := [Text.hexDigit (n / 100), Text.hexDigit (n / 10 % 10), Text.hexDigit (n % 10)]
    '.' :: (digits.reverse.dropWhile (· == '0')).reverse

def display (d : Duration) : String :=
  if d.milliseconds < 1000 then s!"{d.milliseconds}ms"
  else
    let seconds := toString (d.milliseconds / 1000)
    let rest := String.ofList (thousandths (d.milliseconds % 1000))
    s!"{seconds}{rest}s"

end Duration

end ModemMux
