import PluginLisp.Number.Checked

/-!
Decimals of any size: an integer mantissa over a power of ten. Sums, differences and products are
exact; a quotient is rounded to fifty places, a half going away from zero. The scale is a word of
thirty-two bits: where a product, a power or a quotient asks for a larger one, the program breaks off.
-/

namespace PluginLisp

/-- The decimal `mantissa / 10 ^ scale`. -/
structure Decimal where
  mantissa : Int
  scale : UInt32
deriving DecidableEq, Repr, Inhabited

namespace Decimal

/-- Places kept by a division. -/
def quotientPlaces : UInt32 := 50

/-- A power of ten. -/
def pow10 (n : Nat) : Int := Number.tenPow n

/-- Cancels powers of ten between a mantissa and its scale while both allow it. -/
def cancelTens (mantissa : Int) : (scale : Nat) → Int × Nat
  | 0 => (mantissa, 0)
  | scale + 1 =>
      if mantissa % 10 = 0 then cancelTens (mantissa / 10) scale else (mantissa, scale + 1)

/-- The decimal `mantissa / 10 ^ scale` in lowest terms: the scale is zero or the mantissa is not
    divisible by ten. -/
def make (mantissa : Int) (scale : UInt32) : Decimal :=
  if mantissa = 0 then ⟨0, 0⟩
  else
    let (m, s) := cancelTens mantissa scale.toNat
    ⟨m, s.toUInt32⟩

/-- Zero. -/
def zero : Decimal := ⟨0, 0⟩

/-- One. -/
def one : Decimal := ⟨1, 0⟩

/-- The mantissas of two decimals over the larger of their scales, and that scale. -/
def align (a b : Decimal) : Int × Int × UInt32 :=
  if a.scale = b.scale then (a.mantissa, b.mantissa, a.scale)
  else if a.scale < b.scale then
    (a.mantissa * pow10 (b.scale - a.scale).toNat, b.mantissa, b.scale)
  else (a.mantissa, b.mantissa * pow10 (a.scale - b.scale).toNat, a.scale)

/-- Sum. -/
def add (a b : Decimal) : Decimal :=
  let (x, y, scale) := align a b
  make (x + y) scale

/-- Difference. -/
def sub (a b : Decimal) : Decimal :=
  let (x, y, scale) := align a b
  make (x - y) scale

/-- Product. -/
def mul (a b : Decimal) : Except Error Decimal := do
  return make (a.mantissa * b.mantissa) (← Number.addUInt32 a.scale b.scale)

/-- Rounds a tenfold value to a whole one, a half going away from zero. -/
def roundTenth (q : Int) : Int := if q < 0 then (q - 5).tdiv 10 else (q + 5).tdiv 10

/-- Quotient, rounded to fifty places. It is computed to one place more. -/
def div (a b : Decimal) : Except Error Decimal :=
  if b.mantissa = 0 then .error .divisionByZero
  else do
    let places ← Number.addUInt32 (← Number.addUInt32 b.scale quotientPlaces) 1
    let numerator := a.mantissa * pow10 places.toNat
    let denominator := b.mantissa * pow10 a.scale.toNat
    return make (roundTenth (numerator.tdiv denominator)) quotientPlaces

/-- Remainder of the division that truncates; it has the sign of the dividend. None by zero. -/
def rem? (a b : Decimal) : Option Decimal :=
  if b.mantissa = 0 then none
  else
    let (x, y, scale) := align a b
    some (make (x.tmod y) scale)

/-- Negation. -/
def neg (a : Decimal) : Decimal := ⟨-a.mantissa, a.scale⟩

/-- Absolute value. -/
def abs (a : Decimal) : Decimal := ⟨a.mantissa.natAbs, a.scale⟩

/-- Sign as -1, 0 or 1. -/
def signum (a : Decimal) : Int := a.mantissa.sign

/-- Whether the value is zero. -/
def isZero (a : Decimal) : Bool := a.mantissa == 0

/-- Whether a decimal in lowest terms has no fractional part. -/
def isInteger (a : Decimal) : Bool := a.scale == 0

/-- The integer part as an integer. -/
def truncated (a : Decimal) : Int := a.mantissa.tdiv (pow10 a.scale.toNat)

/-- The integer part, rounding toward zero. -/
def trunc (a : Decimal) : Decimal := make a.truncated 0

/-- The largest integer not above the value. -/
def floor (a : Decimal) : Decimal :=
  if a.signum < 0 && !a.isInteger then a.trunc.sub one else a.trunc

/-- The smallest integer not below the value. -/
def ceil (a : Decimal) : Decimal :=
  if 0 < a.signum && !a.isInteger then a.trunc.add one else a.trunc

/-- The nearest integer, a half going away from zero. -/
def round (a : Decimal) : Decimal :=
  let half := make 5 1
  if a.signum < 0 then (a.sub half).trunc else (a.add half).trunc

/-- Power with a natural exponent, which is a word of thirty-two bits. -/
def pow (a : Decimal) (exponent : UInt32) : Except Error Decimal := do
  return make (Int.pow a.mantissa exponent.toNat) (← Number.mulUInt32 a.scale exponent)

/-- The integer part, if sixty-four bits hold it. -/
def toWord? (a : Decimal) : Option Int :=
  if Number.fitsWord a.truncated then some a.truncated else none

/-- The order of the values. -/
def cmp (a b : Decimal) : Ordering :=
  let (x, y, _) := align a b
  compare x y

end Decimal

end PluginLisp
