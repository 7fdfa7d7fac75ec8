import PluginLisp.Number.Binary

/-!
The decimal digits of a float: the fewest that read back as the same float and, of those, the ones
nearest to its value; and the digits rounded to a fixed number of places.
-/

namespace PluginLisp.Number

/-- Decimal digits with the place of the point: the value is `0.d₁d₂…dₙ * 10 ^ point`. -/
structure Digits where
  digits : List Nat
  point : Int
deriving Repr, Inhabited, DecidableEq

/-- Where a value halfway between two candidates goes. -/
inductive Tie where
  | up
  | even
deriving DecidableEq, Repr

/-- The decimal digits of a natural number, most significant first. -/
def decimalDigits (n : Nat) : List Nat := (Nat.toDigits 10 n).map fun c => c.toNat - 48

/-- The numbers that round to a given positive float: all those strictly between `low / den` and
    `high / den`, and the ends too if `closed`; the float itself is `value / den`. -/
structure Interval where
  low : Nat
  value : Nat
  high : Nat
  den : Nat
  closed : Bool

/-- The interval of a positive finite float. The floats below a power of two are twice as dense, so
    there the lower end is half as far away. -/
def Interval.of (b : Binary) : Interval :=
  let (n, d) := Binary.ratio ⟨false, 1, b.exponent⟩
  let below := if b.mantissa = twoPow 52 ∧ -1074 < b.exponent then 1 else 2
  ⟨(4 * b.mantissa - below) * n, 4 * b.mantissa * n, (4 * b.mantissa + 2) * n, 4 * d,
    b.mantissa % 2 = 0⟩

/-- Whether the interval holds `m * 10 ^ k`. -/
def Interval.holds (i : Interval) (m : Nat) (k : Int) : Bool :=
  let x := if 0 ≤ k then m * tenPow k.toNat * i.den else m * i.den
  let scale := if 0 ≤ k then 1 else tenPow (-k).toNat
  if i.closed then i.low * scale ≤ x && x ≤ i.high * scale
  else i.low * scale < x && x < i.high * scale

/-- The multiple of `10 ^ k` that stands for the float in its interval, if one does: of the two
    neighbours of the value the one inside, or the nearer one if both are. -/
def Interval.candidate? (tie : Tie) (i : Interval) (k : Int) : Option Nat :=
  let num := if 0 ≤ k then i.value else i.value * tenPow (-k).toNat
  let den := if 0 ≤ k then i.den * tenPow k.toNat else i.den
  let below := num / den
  let rest := 2 * (num % den)
  match i.holds below k, i.holds (below + 1) k with
  | true, true =>
      if rest < den then some below
      else if rest > den then some (below + 1)
      else if tie = .even ∧ below % 2 = 0 then some below
      else some (below + 1)
  | true, false => some below
  | false, true => some (below + 1)
  | false, false => none

/-- The place of the decimal point of a positive ratio, so that `10 ^ (p - 1) ≤ num / den < 10 ^ p`.
    The binary logarithms give it up to one. -/
def pointOf (num den : Nat) : Int :=
  let guess : Int := ((num.log2 : Int) - den.log2 - 1) * 30103 / 100000
  let reached (p : Int) : Bool :=
    if 0 ≤ p then tenPow p.toNat * den ≤ num else den ≤ num * tenPow (-p).toNat
  if reached (guess + 1) then guess + 2 else if reached guess then guess + 1 else guess

/-- Drops the zeros at the end of a list of digits. -/
def dropTrailingZeros (ds : List Nat) : List Nat :=
  (ds.reverse.dropWhile (· == 0)).reverse

/-- The candidate with the fewest digits, looked for with `count`, `count + 1`, … digits. -/
def Interval.search (tie : Tie) (i : Interval) (point : Int) : (tries count : Nat) → Nat × Int
  | 0, count => (i.value / i.den, point - count)
  | tries + 1, count =>
      let k := point - count
      match i.candidate? tie k with
      | some m => (m, k)
      | none => i.search tie point tries (count + 1)

/-- The shortest digits of a finite float's magnitude; zero has none. -/
def shortestDigits (tie : Tie) (b : Binary) : Digits :=
  if b.mantissa = 0 then ⟨[], 0⟩
  else
    let i := Interval.of b
    let (m, k) := i.search tie (pointOf i.value i.den) 17 1
    let ds := decimalDigits m
    ⟨dropTrailingZeros ds, k + ds.length⟩

/-- The magnitude times `10 ^ places`, rounded to an integer with halves going to the even one. -/
def fixedMantissa (b : Binary) (places : Nat) : Nat :=
  let (n, d) := b.ratio
  roundDiv (n * tenPow places) d

end PluginLisp.Number
