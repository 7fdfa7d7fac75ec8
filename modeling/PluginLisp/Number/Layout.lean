import PluginLisp.Number.Shortest

/-!
How floats are written. `display` is the plain form, which never has an exponent; `render` is the
form that values use; `fixed` has a given number of places; `scientific` switches to an exponent
outside a window of magnitudes.
-/

namespace PluginLisp.Number

/-- Digits as characters. -/
def digitChars (ds : List Nat) : List Char := ds.map Nat.digitChar

/-- Digits and the place of the point in positional notation; an integral value has no point. -/
def Digits.positional (d : Digits) : List Char :=
  let n : Int := d.digits.length
  if d.digits.isEmpty then ['0']
  else if d.point ≤ 0 then
    '0' :: '.' :: (List.replicate (-d.point).toNat '0' ++ digitChars d.digits)
  else if n ≤ d.point then
    digitChars d.digits ++ List.replicate (d.point - n).toNat '0'
  else
    digitChars (d.digits.take d.point.toNat) ++ '.' :: digitChars (d.digits.drop d.point.toNat)

/-- A minus sign in front of what is negative. -/
def signed (negative : Bool) (body : String) : String := if negative then "-" ++ body else body

/-- The shortest positional text of a float: negative zero keeps its sign. -/
def display (x : Float) : String :=
  match Kind.ofFloat x with
  | .nan => "NaN"
  | .infinite negative => signed negative "inf"
  | .finite b => signed b.negative (String.ofList (shortestDigits .up b).positional)

/-- The text of an integer. -/
def integerText (n : Int) : String := signed (n < 0) (toString n.natAbs)

/-- The text of a number as a value: integers below `10 ^ 15` are written as such (so negative zero
    loses its sign), everything else in its shortest positional form. -/
def render (x : Float) : String :=
  match Kind.ofFloat x with
  | .nan => "NaN"
  | .infinite negative => signed negative "Infinity"
  | .finite b =>
      if b.isIntegral && b.truncated.natAbs < tenPow 15 then integerText b.truncated else display x

/-- A float with exactly `places` digits after the point, a half going to the even digit; a result
    of zero keeps the sign. -/
def fixed (places : Nat) (x : Float) : String :=
  match Kind.ofFloat x with
  | .nan => "NaN"
  | .infinite negative => signed negative "inf"
  | .finite b =>
      let ds := Nat.toDigits 10 (fixedMantissa b places)
      let padded := List.replicate (places + 1 - ds.length) '0' ++ ds
      let whole := padded.take (padded.length - places)
      let rest := padded.drop (padded.length - places)
      signed b.negative
        (String.ofList (if places = 0 then whole else whole ++ '.' :: rest))

/-- A finite float with a fraction or an exponent: positional, always with a fraction, if the power
    of ten of the first digit lies between -5 and 15, and with a signed exponent otherwise. -/
def scientific (b : Binary) : String :=
  let d := shortestDigits .even b
  let e := d.point - 1
  signed b.negative <|
    if d.digits.isEmpty then "0.0"
    else if -5 ≤ e ∧ e < 16 then
      let body := d.positional
      String.ofList (if body.contains '.' then body else body ++ ['.', '0'])
    else
      let mantissa := match digitChars d.digits with
        | [] => []
        | [c] => [c]
        | c :: rest => c :: '.' :: rest
      String.ofList mantissa ++ (if e < 0 then "e-" else "e+") ++ toString e.natAbs

end PluginLisp.Number
