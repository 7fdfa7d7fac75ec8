import PluginLisp.Builtin.Comparison
import PluginLisp.Builtin.Console
import PluginLisp.Builtin.Encoding
import PluginLisp.Builtin.Form
import PluginLisp.Builtin.Functional
import PluginLisp.Builtin.General
import PluginLisp.Builtin.Json
import PluginLisp.Builtin.Math
import PluginLisp.Builtin.Sequence
import PluginLisp.Builtin.Shared
import PluginLisp.Builtin.System
import PluginLisp.Builtin.Table
import PluginLisp.Builtin.Text

/-!
Builtins: everything that a registry can hold. A builtin is a special form, which gets its arguments
as code, or a function, whose arguments are counted and evaluated first; besides there are builtins
that ignore their arguments and answer with a fixed text.
-/

namespace PluginLisp

/-- A builtin whose arguments are evaluated before it runs. -/
inductive Primitive where
  | general (op : GeneralOp)
  | math (op : MathOp)
  | comparison (op : ComparisonOp)
  | sequence (op : SequenceOp)
  | functional (op : FunctionalOp)
  | text (op : TextOp)
  | table (op : TableOp)
  | json (op : JsonOp)
  | console (op : ConsoleOp)
  | atom (op : AtomOp)
  | thread (op : ThreadOp)
  | encoding (op : EncodingOp)
  | system (op : SystemOp)
deriving DecidableEq, Repr, Inhabited

namespace Primitive

/-- The name in errors, which is also the name of registration. -/
def name : Primitive → String
  | general op => op.name
  | math op => op.name
  | comparison op => op.name
  | sequence op => op.name
  | functional op => op.name
  | text op => op.name
  | table op => op.symbol
  | json op => op.name
  | console op => op.name
  | atom op => op.name
  | thread op => op.name
  | encoding op => op.name
  | system op => op.name

/-- The numbers of arguments. -/
def count : Primitive → ArgCount
  | general op => op.count
  | math op => op.count
  | comparison op => op.count
  | sequence op => op.argCount
  | functional op => op.count
  | text op => op.count
  | table op => op.count
  | json op => op.count
  | console op => op.count
  | atom op => op.count
  | thread op => op.count
  | encoding op => op.count
  | system op => op.count

/-- The help line. -/
def help : Primitive → String
  | general op => op.help
  | math op => op.help
  | comparison op => op.help
  | sequence op => op.help
  | functional op => op.help
  | text op => op.help
  | table op => op.help
  | json op => op.help
  | console op => op.help
  | atom op => op.help
  | thread op => op.help
  | encoding op => op.help
  | system op => op.helpLine

end Primitive

/-- What a name of the registry stands for. -/
inductive Builtin where
  | form (f : SpecialForm)
  | primitive (p : Primitive)
  /-- Answers with a text, whatever the arguments. -/
  | constant (text : String)
deriving DecidableEq, Repr, Inhabited

namespace Builtin

/-- The name of registration. -/
def name : Builtin → String
  | form f => f.name
  | primitive p => p.name
  | constant text => text

/-- The numbers of arguments. -/
def count : Builtin → ArgCount
  | form f => f.count
  | primitive p => p.count
  | constant _ => .any

/-- The help line. -/
def help : Builtin → String
  | form f => f.help
  | primitive p => p.help
  | constant _ => ""

end Builtin

end PluginLisp
