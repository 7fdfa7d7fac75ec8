import PluginLisp.Number.Binary

/-!
Reading numbers from text: runs of decimal digits, integers of bounded size, and floats.
-/

namespace PluginLisp.Number

/-- The ASCII decimal digits. -/
def isDigit (c : Char) : Bool := '0' ≤ c && c ≤ '9'

/-- The number that a run of digits writes. -/
def digitsValue (cs : List Char) : Nat := cs.foldl (fun n c => 10 * n + (c.toNat - 48)) 0

/-- Splits off a leading sign: whether it is a minus, and the rest. -/
def splitSign : List Char → Bool × List Char
  | '-' :: rest => (true, rest)
  | '+' :: rest => (false, rest)
  | rest => (false, rest)

/-- Reads a whole text as a natural number: one digit or more and nothing else. -/
def readDigits? (cs : List Char) : Option Nat :=
  if cs.isEmpty || !cs.all isDigit then none else some (digitsValue cs)

/-- Reads a whole text as an integer with an optional sign. -/
def readInteger? (cs : List Char) : Option Int :=
  let (negative, body) := splitSign cs
  (readDigits? body).map fun n => if negative then -(n : Int) else n

/-- Reads an integer that fits sixty-four bits. -/
def readWord? (cs : List Char) : Option Int :=
  (readInteger? cs).filter fitsWord

/-- The float nearest to `mantissa * 10 ^ exponent`. Magnitudes that are certain to be infinite or
    zero are recognised from the number of digits alone. -/
def ofDecimal (negative : Bool) (mantissa : Nat) (exponent : Int) : Float :=
  let size : Int := (Nat.toDigits 10 mantissa).length + exponent
  if mantissa = 0 ∨ size < -330 then ofMagnitudeBits negative 0
  else if 310 < size then ofMagnitudeBits negative (2047 * twoPow 52)
  else if 0 ≤ exponent then ofRatio negative (mantissa * tenPow exponent.toNat) 1
  else ofRatio negative mantissa (tenPow (-exponent).toNat)

/-- Reads the optional exponent that ends the text of a float. -/
def readExponent? : List Char → Option Int
  | [] => some 0
  | c :: rest => if c = 'e' ∨ c = 'E' then readInteger? rest else none

/-- Reads an unsigned float: digits with at most one point, at least one digit, and an optional
    exponent. -/
def readUnsigned? (negative : Bool) (cs : List Char) : Option Float :=
  let whole := cs.takeWhile isDigit
  let rest := cs.dropWhile isDigit
  let (fraction, tail) := match rest with
    | '.' :: more => (more.takeWhile isDigit, more.dropWhile isDigit)
    | _ => ([], rest)
  if whole.isEmpty && fraction.isEmpty then none
  else (readExponent? tail).map fun e =>
    ofDecimal negative (digitsValue (whole ++ fraction)) (e - fraction.length)

/-- Reads a whole text as a float: a decimal, or the name of an infinity or a NaN in any case. -/
def readFloat? (s : String) : Option Float :=
  let (negative, body) := splitSign s.toList
  let name := String.ofList (body.map Char.toLower)
  if name = "inf" ∨ name = "infinity" then some (ofMagnitudeBits negative (2047 * twoPow 52))
  else if name = "nan" then some (0.0 / 0.0)
  else readUnsigned? negative body

end PluginLisp.Number
