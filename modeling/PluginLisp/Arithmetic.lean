import PluginLisp.Value.View

/-!
The arithmetic operators. They work on floats, unless one of the operands is a decimal: then all of
them become decimals first.
-/

namespace PluginLisp

/-- The five operators. -/
inductive Operator where
  | add
  | sub
  | mul
  | div
  | rem
deriving DecidableEq, Repr, Inhabited

namespace Operator

/-- The symbol of an operator. -/
def symbol : Operator → String
  | add => "+"
  | sub => "-"
  | mul => "*"
  | div => "/"
  | rem => "%"

/-- The operator of a symbol. -/
def ofSymbol? : String → Option Operator
  | "+" => some add
  | "-" => some sub
  | "*" => some mul
  | "/" => some div
  | "%" => some rem
  | _ => none

/-- Quotient of floats; by zero, of either sign, there is none. -/
def divideFloats (x y : Float) : Except Error Float :=
  if y == 0.0 then .error .divisionByZero else .ok (x / y)

/-- Too few operands for an operator that needs one. -/
def missingOperand (op : Operator) : Error := .arity op.symbol "at least 1" 0

/-- An operator on floats. The empty sum is negative zero, which adds nothing to any float. -/
def onFloats (op : Operator) (xs : List Float) : Except Error Float :=
  match op, xs with
  | add, _ => .ok (xs.foldl (· + ·) (-0.0))
  | mul, _ => .ok (xs.foldl (· * ·) 1.0)
  | sub, [] => .error op.missingOperand
  | sub, [x] => .ok (-x)
  | sub, x :: rest => .ok (rest.foldl (· - ·) x)
  | div, [] => .error op.missingOperand
  | div, [x] => divideFloats 1.0 x
  | div, x :: rest => rest.foldlM divideFloats x
  | rem, [x, y] => if y == 0.0 then .error .divisionByZero else .ok (Number.remainder x y)
  | rem, _ => .error (.arity op.symbol "2" xs.length)

/-- An operator on decimals. -/
def onDecimals (op : Operator) (xs : List Decimal) : Except Error Decimal :=
  match op, xs with
  | add, _ => .ok (xs.foldl Decimal.add .zero)
  | mul, _ => xs.foldlM Decimal.mul .one
  | sub, [] => .error op.missingOperand
  | sub, [x] => .ok x.neg
  | sub, x :: rest => .ok (rest.foldl Decimal.sub x)
  | div, [] => .error op.missingOperand
  | div, [x] => Decimal.one.div x
  | div, x :: rest => rest.foldlM Decimal.div x
  | rem, [x, y] => match x.rem? y with
      | some r => .ok r
      | none => .error .divisionByZero
  | rem, _ => .error (.arity op.symbol "2" xs.length)

end Operator

/-- Operands of an operator, all of one kind. -/
inductive Operands where
  | floats (xs : List Float)
  | decimals (xs : List Decimal)

namespace Operands

/-- An operand has to be a number. -/
def checkNumber : Value → Except Error Unit
  | .number _ | .decimal _ => .ok ()
  | v => .error (.type "number" v.typeName)

/-- A number as a decimal, which only a finite float can become. -/
def toDecimal : Value → Except Error Decimal
  | .decimal d => .ok d
  | .number x => match Decimal.ofFloat? x with
      | some d => .ok d
      | none => .error (.invalidDecimal (Number.display x))
  | v => .error (.type "number" v.typeName)

/-- The operands among values: decimals if one of them is, floats otherwise. -/
def ofValues (args : List Value) : Except Error Operands := do
  args.forM checkNumber
  if args.any fun v => match v with
      | .decimal _ => true
      | _ => false
  then return .decimals (← args.mapM toDecimal)
  else return .floats (← args.mapM Value.asNumber)

end Operands

/-- Applies an operator to values. -/
def Operator.apply (op : Operator) (args : List Value) : Except Error Value := do
  match ← Operands.ofValues args with
  | .floats xs => return .number (← op.onFloats xs)
  | .decimals xs => return .decimal (← op.onDecimals xs)

/-- Applies the operator with the given symbol; the operands are looked at first. -/
def applyOperator (symbol : String) (args : List Value) : Except Error Value :=
  match Operator.ofSymbol? symbol with
  | some op => op.apply args
  | none => do
      discard (Operands.ofValues args)
      .error (.runtime ("Unknown arithmetic operator: " ++ symbol))

end PluginLisp
