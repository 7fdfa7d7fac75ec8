import PluginLisp.Decimal.Basic
import PluginLisp.Number.Layout
import PluginLisp.Number.Reading
import PluginLisp.Text.Blank

/-!
Decimals as text and as floats. The text of a decimal is positional and exact; `ofText` reads it
back, and also reads signs, exponents and surrounding white space.
-/

namespace PluginLisp.Decimal

/-- The digits of a mantissa with the point `scale` places from the right and at least one digit
    before it. -/
def placePoint (digits : List Char) (scale : Nat) : List Char :=
  if scale = 0 then digits
  else
    let padded := List.replicate (scale + 1 - digits.length) '0' ++ digits
    padded.take (padded.length - scale) ++ '.' :: padded.drop (padded.length - scale)

/-- The exact positional text. -/
def text (a : Decimal) : String :=
  Number.signed (a.mantissa < 0)
    (String.ofList (placePoint (Nat.toDigits 10 a.mantissa.natAbs) a.scale.toNat))

/-- Splits the text of a number at its exponent mark. An exponent has to fit sixty-four bits. -/
def splitExponent? (cs : List Char) : Option (List Char × Int) :=
  let isMark (c : Char) := c == 'e' || c == 'E'
  let number := cs.takeWhile (!isMark ·)
  match cs.dropWhile (!isMark ·) with
  | [] => some (number, 0)
  | _ :: exponent => (Number.readWord? exponent).map fun e => (number, e)

/-- Splits digits at the first point; without one there is no fraction. -/
def splitPoint (cs : List Char) : List Char × List Char :=
  (cs.takeWhile (· != '.'), (cs.dropWhile (· != '.')).drop 1)

/-- The largest scale. -/
def maxScale : Nat := Number.twoPow 32 - 1

/-- The decimal `mantissa / 10 ^ scale` for a scale of any sign whose size fits a scale. -/
def ofScaled? (mantissa : Int) (scale : Int) : Option Decimal :=
  if maxScale < scale.natAbs then none
  else if 0 ≤ scale then some (make mantissa scale.toNat.toUInt32)
  else some (make (mantissa * pow10 scale.natAbs) 0)

/-- The digits before and after the point of a number, its exponent, and whether it is negative. -/
structure Numeral where
  negative : Bool
  whole : List Char
  fraction : List Char
  exponent : Int

/-- The digits without the point. -/
def Numeral.digits (n : Numeral) : List Char := n.whole ++ n.fraction

/-- The integer that the digits write, with the sign. -/
def Numeral.mantissa (n : Numeral) : Int :=
  let magnitude : Int := Number.digitsValue n.digits
  if n.negative then -magnitude else magnitude

/-- The parts of a text: white space around it, a sign, digits with at most one point and at least one
    digit, and an exponent. -/
def numeral? (s : String) : Option Numeral := do
  let (negative, body) := Number.splitSign (Text.stripBoth Text.isBlank s.toList)
  let (number, exponent) ← splitExponent? body
  let (whole, fraction) := splitPoint number
  let n : Numeral := ⟨negative, whole, fraction, exponent⟩
  if n.digits.isEmpty || !n.digits.all Number.isDigit then none else some n

/-- Reads a decimal. The number of its places, which is the length of the fraction less the exponent,
    is computed in a word; the program breaks off if the word cannot hold it. -/
def ofText (s : String) : Except Error Decimal := do
  match numeral? s with
  | none => .error (.invalidDecimal s)
  | some n =>
      let places ← Number.subWord n.fraction.length n.exponent
      match ofScaled? n.mantissa places with
      | some d => .ok d
      | none => .error (.invalidDecimal s)

/-- The decimal with the shortest digits of a float; none unless the float is finite. -/
def ofFloat? (x : Float) : Option Decimal :=
  match Number.Kind.ofFloat x with
  | .finite b =>
      let d := Number.shortestDigits .up b
      let magnitude : Int := (d.digits.foldl (fun n digit => 10 * n + digit) 0 : Nat)
      ofScaled? (if b.negative then -magnitude else magnitude) (d.digits.length - d.point)
  | _ => none

/-- The nearest float; a value beyond all floats is infinite. -/
def toFloat (a : Decimal) : Float :=
  Number.ofDecimal (a.mantissa < 0) a.mantissa.natAbs (-(a.scale.toNat : Int))

end PluginLisp.Decimal
