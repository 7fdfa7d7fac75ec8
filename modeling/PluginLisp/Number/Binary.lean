import PluginLisp.Number.Power

/-!
Floats taken apart into sign, mantissa and power of two, and put together again by rounding an exact
ratio. Every operation on floats whose result has to be known exactly (integer parts, remainders,
decimal text) is defined here in integer arithmetic.
-/

namespace PluginLisp.Number

/-- A finite float: its magnitude is `mantissa * 2 ^ exponent`. -/
structure Binary where
  negative : Bool
  mantissa : Nat
  exponent : Int
deriving Repr, Inhabited, DecidableEq

/-- What a float stands for. -/
inductive Kind where
  | nan
  | infinite (negative : Bool)
  | finite (value : Binary)
deriving Repr, Inhabited, DecidableEq

/-- Reads a float's bits: one for the sign, eleven for the exponent, fifty-two for the fraction. -/
def Kind.ofFloat (x : Float) : Kind :=
  let bits := x.toBits
  let negative := bits >>> 63 != 0
  let biased := ((bits >>> 52) &&& 0x7ff).toNat
  let fraction := (bits &&& 0xfffffffffffff).toNat
  if biased = 2047 then
    if fraction = 0 then .infinite negative else .nan
  else if biased = 0 then .finite ⟨negative, fraction, -1074⟩
  else .finite ⟨negative, fraction + twoPow 52, (biased : Int) - 1075⟩

/-- Divides and rounds to the nearest integer, a half to the even one. -/
def roundDiv (num den : Nat) : Nat :=
  let q := num / den
  let twice := 2 * (num % den)
  if den < twice ∨ (twice = den ∧ q % 2 = 1) then q + 1 else q

/-- The ratio `num / den` divided by `2 ^ e`, as a numerator and a denominator. -/
def scaleRatio (num den : Nat) (e : Int) : Nat × Nat :=
  if 0 ≤ e then (num, den * twoPow e.toNat) else (num * twoPow (-e).toNat, den)

/-- The exponent of the last place of the float nearest to a positive ratio: the one at which the
    ratio has fifty-three binary digits, but never below the last place of the smallest floats. -/
def lastPlace (num den : Nat) : Int :=
  let guess := max ((num.log2 : Int) - den.log2 - 53) (-1074)
  let (n, d) := scaleRatio num den guess
  if n / d < twoPow 53 then guess else guess + 1

/-- The bits of the non-negative float nearest to `num / den`; a ratio beyond the largest float
    rounds to infinity. -/
def nearestBits (num den : Nat) : Nat :=
  if num = 0 then 0
  else
    let e := lastPlace num den
    let (n, d) := scaleRatio num den e
    min ((e + 1074).toNat * twoPow 52 + roundDiv n d) (2047 * twoPow 52)

/-- Sets the sign of a non-negative float given by its bits. -/
def ofMagnitudeBits (negative : Bool) (bits : Nat) : Float :=
  Float.ofBits (if negative then (bits + twoPow 63).toUInt64 else bits.toUInt64)

/-- The float nearest to `num / den`, with the given sign. -/
def ofRatio (negative : Bool) (num den : Nat) : Float :=
  ofMagnitudeBits negative (nearestBits num den)

/-- The float nearest to an integer. -/
def ofInt (n : Int) : Float := ofRatio (n < 0) n.natAbs 1

/-- The float nearest to a natural number. -/
def ofNat (n : Nat) : Float := ofRatio false n 1

namespace Binary

/-- The magnitude as a ratio of natural numbers. -/
def ratio (b : Binary) : Nat × Nat :=
  if 0 ≤ b.exponent then (b.mantissa * twoPow b.exponent.toNat, 1)
  else (b.mantissa, twoPow (-b.exponent).toNat)

/-- Whether the value has no fractional part. -/
def isIntegral (b : Binary) : Bool :=
  let (n, d) := b.ratio
  n % d == 0

/-- The value with its fractional part dropped. -/
def truncated (b : Binary) : Int :=
  let (n, d) := b.ratio
  if b.negative then -(n / d : Nat) else (n / d : Nat)

end Binary

/-- Rounds a float to an integral one by a rule that gets the sign, the integer part of the magnitude
    and its fractional part as a ratio, and answers with the rounded magnitude. What is not finite
    stays as it is, and a result of zero keeps the sign. -/
def roundBy (rule : (negative : Bool) → (whole rest den : Nat) → Nat) (x : Float) : Float :=
  match Kind.ofFloat x with
  | .finite b =>
      let (n, d) := b.ratio
      ofRatio b.negative (rule b.negative (n / d) (n % d) d) 1
  | _ => x

/-- The largest integer not above the value. -/
def floor (x : Float) : Float :=
  roundBy (fun negative whole rest _ => if negative && rest != 0 then whole + 1 else whole) x

/-- The smallest integer not below the value. -/
def ceil (x : Float) : Float :=
  roundBy (fun negative whole rest _ => if !negative && rest != 0 then whole + 1 else whole) x

/-- The nearest integer, a half going away from zero. -/
def round (x : Float) : Float :=
  roundBy (fun _ whole rest den => if den ≤ 2 * rest then whole + 1 else whole) x

/-- Whether a float is a finite number without fractional part. -/
def isIntegral (x : Float) : Bool :=
  match Kind.ofFloat x with
  | .finite b => b.isIntegral
  | _ => false

/-- Whether a float is neither infinite nor a NaN. -/
def isFinite (x : Float) : Bool :=
  match Kind.ofFloat x with
  | .finite _ => true
  | _ => false

/-- The nearest word of sixty-four bits to an integer: one out of range goes to the end it passed. -/
def clampWord (n : Int) : Int := max (-wordBound) (min n (wordBound - 1))

/-- Drops the fractional part and clamps to sixty-four bits; a NaN counts as zero. -/
def toWord (x : Float) : Int :=
  match Kind.ofFloat x with
  | .nan => 0
  | .infinite negative => clampWord (if negative then -wordBound else wordBound)
  | .finite b => clampWord b.truncated

/-- Remainder of the division that truncates: exact, with the sign of the dividend. It is a NaN where
    the quotient makes no sense. -/
def remainder (x y : Float) : Float :=
  match Kind.ofFloat x, Kind.ofFloat y with
  | .finite a, .finite b =>
      if b.mantissa = 0 then 0.0 / 0.0
      else
        let e := min a.exponent b.exponent
        let n := a.mantissa * twoPow (a.exponent - e).toNat % (b.mantissa * twoPow (b.exponent - e).toNat)
        let (num, den) := Binary.ratio ⟨a.negative, n, e⟩
        ofRatio a.negative num den
  | .finite _, .infinite _ => x
  | _, _ => 0.0 / 0.0

end PluginLisp.Number
