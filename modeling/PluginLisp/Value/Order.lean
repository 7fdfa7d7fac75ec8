import PluginLisp.Value.View

/-!
When values are equal and how they are ordered. Numbers are compared by value, whether float or
decimal; lists and vectors with equal elements are equal; closures and the things in the store are
equal only to themselves.
-/

namespace PluginLisp

/-- The order of two floats; a NaN has none. -/
def compareFloats (x y : Float) : Option Ordering :=
  if x < y then some .lt
  else if y < x then some .gt
  else if x == y then some .eq
  else none

/-- Whether a float and a decimal are the same number, the float read by its shortest digits. -/
def floatEqualsDecimal (x : Float) (d : Decimal) : Bool :=
  match Decimal.ofFloat? x with
  | some e => e.cmp d == .eq
  | none => false

mutual

/-- Equality of values. -/
def Value.equal : Value → Value → Bool
  | .nil, .nil => true
  | .boolean x, .boolean y => x == y
  | .number x, .number y => x == y
  | .decimal x, .decimal y => x.cmp y == .eq
  | .number x, .decimal y => floatEqualsDecimal x y
  | .decimal x, .number y => floatEqualsDecimal y x
  | .text x, .text y => x == y
  | .keyword x, .keyword y => x == y
  | .symbol x, .symbol y => x == y
  | .list xs, .list ys => Value.equalAll xs ys
  | .list xs, .vector ys => Value.equalAll xs ys
  | .vector xs, .list ys => Value.equalAll xs ys
  | .vector xs, .vector ys => Value.equalAll xs ys
  | .map xs, .map ys => xs.length == ys.length && Value.equalEntries xs ys
  | .function x, .function y => x.identity == y.identity
  | .transformer x, .transformer y => x.identity == y.identity
  | .builtin x, .builtin y => x == y
  | .operator x, .operator y => x == y
  | .atom x, .atom y => x == y
  | .channel x, .channel y => x == y
  | .future x, .future y => x == y
  | .waitGroup x, .waitGroup y => x == y
  | _, _ => false

/-- Equality of sequences, element by element. -/
def Value.equalAll : List Value → List Value → Bool
  | [], [] => true
  | x :: xs, y :: ys => x.equal y && Value.equalAll xs ys
  | _, _ => false

/-- Whether every entry of the first map has an equal one in the second. -/
def Value.equalEntries : List (String × Value) → List (String × Value) → Bool
  | [], _ => true
  | (key, x) :: xs, ys =>
      (match Assoc.get? key ys with
        | some y => x.equal y
        | none => false) && Value.equalEntries xs ys

end

namespace Value

/-- A number as a decimal, if it is one. -/
def toDecimal? : Value → Option Decimal
  | decimal d => some d
  | number x => Decimal.ofFloat? x
  | _ => none

/-- The order of two numbers or of two texts; none for unordered numbers, an error for anything
    else. A decimal is compared exactly with a finite float, and as a float with an infinite one. -/
def compare (a b : Value) : Except Error (Option Ordering) :=
  match a, b with
  | number x, number y => .ok (compareFloats x y)
  | decimal _, _ | _, decimal _ =>
      match a.toDecimal?, b.toDecimal? with
      | some x, some y => .ok (some (x.cmp y))
      | _, _ => do
          let x ← a.asNumber
          let y ← b.asNumber
          return compareFloats x y
  | text x, text y => .ok (some (Ord.compare x y))
  | number _, other | text _, other | other, _ =>
      .error (.type "comparable number or string" other.typeName)

/-- The sign of a number as its order to zero; a NaN counts as zero. -/
def sign : Value → Except Error Ordering
  | decimal d => .ok (Ord.compare d.signum 0)
  | v => do
      let x ← v.asNumber
      return (compareFloats x 0.0).getD .eq

/-- Whether each value is equal to the next. -/
def allEqual : List Value → Bool
  | x :: y :: rest => x.equal y && allEqual (y :: rest)
  | _ => true

/-- Whether each value is in an accepted order to the next. -/
def isMonotonic (accept : Ordering → Bool) : List Value → Except Error Bool
  | x :: y :: rest => do
      match ← x.compare y with
      | some o => if accept o then isMonotonic accept (y :: rest) else return false
      | none => return false
  | _ => .ok true

end Value

end PluginLisp
