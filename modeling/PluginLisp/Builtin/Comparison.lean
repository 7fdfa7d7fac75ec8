import PluginLisp.Builtin.ArgCount
import PluginLisp.Value.Order

/-!
The builtins of the plugin `comparison`: equality, order, and questions about one number.
-/

namespace PluginLisp

/-- The builtins of the plugin `comparison`. -/
inductive ComparisonOp where
  | equal
  | notEqual
  | less
  | greater
  | atMost
  | atLeast
  | isZero
  | isPositive
  | isNegative
  | isEven
  | isOdd
deriving DecidableEq, Repr, Inhabited

namespace ComparisonOp

/-- All of them, in the order of registration. -/
def all : List ComparisonOp :=
  [equal, notEqual, less, greater, atMost, atLeast, isZero, isPositive, isNegative, isEven, isOdd]

/-- The name a program calls it by. -/
def name : ComparisonOp → String
  | equal => "="
  | notEqual => "not="
  | less => "<"
  | greater => ">"
  | atMost => "<="
  | atLeast => ">="
  | isZero => "zero?"
  | isPositive => "pos?"
  | isNegative => "neg?"
  | isEven => "even?"
  | isOdd => "odd?"

/-- The numbers of arguments. -/
def count : ComparisonOp → ArgCount
  | equal | notEqual | less | greater | atMost | atLeast => .atLeast 1
  | _ => .exactly 1

/-- The help line. -/
def help : ComparisonOp → String
  | equal => "True if all arguments are equal"
  | notEqual => "Negation of ="
  | less => "True if arguments are strictly increasing"
  | greater => "True if arguments are strictly decreasing"
  | atMost => "True if arguments are non-decreasing"
  | atLeast => "True if arguments are non-increasing"
  | isZero => "True if the number is zero"
  | isPositive => "True if the number is positive"
  | isNegative => "True if the number is negative"
  | isEven => "True if the integer is even"
  | isOdd => "True if the integer is odd"

/-- The answer for the values of its arguments. -/
def holds (op : ComparisonOp) (args : List Value) : Except Error Bool :=
  match op, args with
  | equal, _ => .ok (Value.allEqual args)
  | notEqual, _ => .ok (!Value.allEqual args)
  | less, _ => Value.isMonotonic (· == .lt) args
  | greater, _ => Value.isMonotonic (· == .gt) args
  | atMost, _ => Value.isMonotonic (· != .gt) args
  | atLeast, _ => Value.isMonotonic (· != .lt) args
  | isZero, [n] => return (← n.sign) == .eq
  | isPositive, [n] => return (← n.sign) == .gt
  | isNegative, [n] => return (← n.sign) == .lt
  | isEven, [n] => return (← n.asInt) % 2 == 0
  | isOdd, [n] => return (← n.asInt) % 2 != 0
  | _, _ => .error (.arity op.name op.count.describe args.length)

/-- What it does to the values of its arguments. -/
def apply (op : ComparisonOp) (args : List Value) : Except Error Value :=
  (op.holds args).map .boolean

end ComparisonOp

end PluginLisp
