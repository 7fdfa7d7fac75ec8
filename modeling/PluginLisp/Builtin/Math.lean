import PluginLisp.Arithmetic
import PluginLisp.Builtin.ArgCount
import PluginLisp.Value.Code
import PluginLisp.Value.Order

/-!
The builtins of the plugin `math`: arithmetic, rounding and the making of decimals.
-/

namespace PluginLisp

/-- The builtins of the plugin `math`. -/
inductive MathOp where
  | operator (op : Operator)
  | modulo
  | inc
  | dec
  | abs
  | min
  | max
  | sqrt
  | pow
  | floor
  | ceil
  | round
  | toDecimal
  | isNumber
deriving DecidableEq, Repr, Inhabited

namespace MathOp

/-- All of them, in the order of registration. -/
def all : List MathOp :=
  [operator .add, operator .sub, operator .mul, operator .div, operator .rem, modulo, inc, dec, abs,
    min, max, sqrt, pow, floor, ceil, round, toDecimal, isNumber]

/-- The name a program calls it by. -/
def name : MathOp → String
  | operator op => op.symbol
  | modulo => "mod"
  | inc => "inc"
  | dec => "dec"
  | abs => "abs"
  | min => "min"
  | max => "max"
  | sqrt => "sqrt"
  | pow => "pow"
  | floor => "floor"
  | ceil => "ceil"
  | round => "round"
  | toDecimal => "bignum"
  | isNumber => "number?"

/-- The numbers of arguments. -/
def count : MathOp → ArgCount
  | operator _ => .any
  | min | max => .atLeast 1
  | modulo | pow => .exactly 2
  | _ => .exactly 1

/-- The help line. -/
def help : MathOp → String
  | operator .add => "Sum of the arguments; 0 when empty"
  | operator .sub => "Negation, or first argument minus the rest"
  | operator .mul => "Product of the arguments; 1 when empty"
  | operator .div => "Reciprocal, or first argument divided by the rest"
  | operator .rem => "Remainder of truncated division"
  | modulo => "Modulus; the sign follows the divisor"
  | inc => "Add one"
  | dec => "Subtract one"
  | abs => "Absolute value"
  | min => "Smallest argument"
  | max => "Largest argument"
  | sqrt => "Square root"
  | pow => "Base raised to the exponent"
  | floor => "Round toward negative infinity"
  | ceil => "Round toward positive infinity"
  | round => "Round to nearest, halves away from zero"
  | toDecimal => "Arbitrary precision number from a number or decimal string"
  | isNumber => "True for Number and BigNumber"

/-- Whether a number is below zero. -/
def isNegative : Value → Except Error Bool
  | .decimal d => .ok (d.signum < 0)
  | v => return (← v.asNumber) < 0.0

/-- Whether a remainder differs in sign from a divisor, and so is one divisor away from the modulus. -/
def needsShift (divisorNegative : Bool) : Value → Bool
  | .number r => r != 0.0 && (r < 0.0 : Bool) != divisorNegative
  | .decimal r => r.signum != 0 && (r.signum < 0 : Bool) != divisorNegative
  | _ => false

/-- The modulus: the remainder moved to the sign of the divisor. -/
def flooredMod (a b : Value) : Except Error Value := do
  let r ← Operator.rem.apply [a, b]
  if needsShift (← isNegative b) r then Operator.add.apply [r, b] else return r

/-- The first of the values that no later one is `wanted` to: the least for `lt`, the greatest for
    `gt`. Every value has to be a number. -/
def extremum (wanted : Ordering) (best : Value) : List Value → Except Error Value
  | [] => .ok best
  | v :: rest => do
      discard v.asNumber
      let o ← v.compare best
      extremum wanted (if o = some wanted then v else best) rest

/-- The extremum of at least one value. -/
def extremumOf (wanted : Ordering) : List Value → Except Error Value
  | [] => .ok .nil
  | v :: rest => do
      discard v.asNumber
      extremum wanted v rest

/-- Rounds a number by the rule for its kind. -/
def roundWith (float : Float → Float) (decimal : Decimal → Decimal) : Value → Except Error Value
  | .decimal d => .ok (.decimal (decimal d))
  | v => return .number (float (← v.asNumber))

/-- A power: exact for a decimal base and an exponent of thirty-two bits, a float otherwise. -/
def power (base exponent : Value) : Except Error Value :=
  let asFloats : Except Error Value := do
    let x ← base.asNumber
    let y ← exponent.asNumber
    return .number (x.pow y)
  match base, exponent.asInt with
  | .decimal d, .ok e =>
      if 0 ≤ e ∧ e < 4294967296 then (d.pow e.toNat.toUInt32).map .decimal else asFloats
  | _, _ => asFloats

/-- What it does to the values of its arguments. -/
def apply (op : MathOp) (args : List Value) : Except Error Value :=
  match op, args with
  | operator op, _ => op.apply args
  | modulo, [a, b] => flooredMod a b
  | inc, [n] => Operator.add.apply [n, .number 1.0]
  | dec, [n] => Operator.sub.apply [n, .number 1.0]
  | abs, [n] => roundWith Float.abs Decimal.abs n
  | min, _ => extremumOf .lt args
  | max, _ => extremumOf .gt args
  | sqrt, [n] => do
      let x ← n.asNumber
      if x < 0.0 then .error (.invalidArguments "sqrt" "argument must not be negative")
      else return .number x.sqrt
  | pow, [base, exponent] => power base exponent
  | floor, [n] => roundWith Number.floor Decimal.floor n
  | ceil, [n] => roundWith Number.ceil Decimal.ceil n
  | round, [n] => roundWith Number.round Decimal.round n
  | toDecimal, [n] => match n with
      | .decimal _ => .ok n
      | .number _ => (Operands.toDecimal n).map .decimal
      | .text s => (readDecimal s).map .decimal
      | v => .error (.type "number or string" v.typeName)
  | isNumber, [n] => .ok (.boolean (match n with
      | .number _ | .decimal _ => true
      | _ => false))
  | _, _ => .error (.arity op.name op.count.describe args.length)

end MathOp

end PluginLisp
