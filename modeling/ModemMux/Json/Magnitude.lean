import ModemMux.Json.Value

/-!
# Numbers within double precision

A reader that turns every number into a double refuses one that is too large for it. It keeps as
many leading digits as fit in 64 bits, takes them and the power of ten that is left to the nearest
doubles, and multiplies. `Numeral.fitsDouble` says whether the product is still finite.
-/

namespace ModemMux.Numeral

/-- The greatest number whose digits are kept. -/
def mostKept : Nat := UInt64.size - 1

/-- Leading digits, and the power of ten that they are to be multiplied by. -/
structure Scaled where
  significand : Nat
  power : Int
  deriving DecidableEq, Repr

/-- Appends digits before the point. From the first one that no longer fits, they only raise the
power. -/
def keepWhole : List Nat → Scaled → Scaled
  | [], s => s
  | d :: ds, s =>
    let kept := 10 * s.significand + d
    if kept ≤ mostKept then keepWhole ds { s with significand := kept }
    else { s with power := s.power + (d :: ds).length }

/-- Appends digits after the point. From the first one that no longer fits, they are dropped. -/
def keepFraction : List Nat → Scaled → Scaled
  | [], s => s
  | d :: ds, s =>
    if 10 * s.significand + d ≤ mostKept then
      keepFraction ds ⟨10 * s.significand + d, s.power - 1⟩
    else s

/-- The leading digits of a number and the power of ten for them. -/
def scaled (n : Numeral) : Scaled :=
  let s := keepFraction n.fraction (keepWhole n.whole ⟨0, 0⟩)
  match n.exponent with
  | none => s
  | some (negative, digits) =>
    { s with power := if negative then s.power - ofDigits digits else s.power + ofDigits digits }

/-- The nearest number with 53 significant bits; of two that are equally near, the even one. -/
def roundToDouble (n : Nat) : Nat :=
  if n < 1 <<< 53 then n
  else
    let unit := 1 <<< (Nat.log2 n - 52)
    let below := n / unit
    let rest := 2 * (n % unit)
    let up := unit < rest || rest == unit && below % 2 == 1
    (if up then below + 1 else below) * unit

/-- The greatest power of ten that is a finite double. -/
def greatestPower : Int := 308

def fitsDouble (n : Numeral) : Bool :=
  let s := n.scaled
  if s.significand = 0 ∨ s.power < 0 then true
  else if greatestPower < s.power then false
  else
    let product := roundToDouble s.significand * roundToDouble (Nat.pow 10 s.power.toNat)
    roundToDouble product < 1 <<< 1024

end ModemMux.Numeral
