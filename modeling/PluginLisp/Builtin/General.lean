import PluginLisp.Builtin.ArgCount

/-!
The builtins of the plugins `core` and `logical` that are plain functions of their arguments.
-/

namespace PluginLisp

/-- The plain functions of the plugins `core` and `logical`. -/
inductive GeneralOp where
  | identity
  | typeOf
  /-- A symbol that no other call gives. -/
  | freshSymbol
  | throw
  | not
deriving DecidableEq, Repr, Inhabited

namespace GeneralOp

/-- The name a program calls it by. -/
def name : GeneralOp → String
  | identity => "identity"
  | typeOf => "type"
  | freshSymbol => "gensym"
  | throw => "throw"
  | not => "not"

/-- The numbers of arguments. -/
def count : GeneralOp → ArgCount
  | freshSymbol => .between 0 1
  | _ => .exactly 1

/-- The help line. -/
def help : GeneralOp → String
  | identity => "Return the argument"
  | typeOf => "Type name of a value"
  | freshSymbol => "Fresh unique symbol"
  | throw => "Raise a user error"
  | not => "Boolean negation"

end GeneralOp

end PluginLisp
