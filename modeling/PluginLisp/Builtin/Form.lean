import PluginLisp.Builtin.ArgCount

/-!
The special forms: builtins that get their arguments as code and decide themselves what to evaluate,
when, and in which scope.
-/

namespace PluginLisp

/-- The special forms. -/
inductive SpecialForm where
  | quote
  | quasiquote
  | define
  | lambda
  | defineFunction
  /-- Definition of a macro. -/
  | defineTransformer
  | sequence
  | evaluate
  | apply
  /-- One step of macro expansion. -/
  | expand
  | attempt
  | and
  | or
  | choose
  | when
  | whenNot
  | cond
  | loop
  | dotimes
  | bind
  | defineModule
  | publish
  | go
deriving DecidableEq, Repr, Inhabited

namespace SpecialForm

/-- The name a program calls it by. -/
def name : SpecialForm → String
  | quote => "quote"
  | quasiquote => "quasiquote"
  | define => "def"
  | lambda => "fn"
  | defineFunction => "defn"
  | defineTransformer => "defmacro"
  | sequence => "do"
  | evaluate => "eval"
  | apply => "apply"
  | expand => "macroexpand"
  | attempt => "try"
  | and => "and"
  | or => "or"
  | choose => "if"
  | when => "when"
  | whenNot => "unless"
  | cond => "cond"
  | loop => "while"
  | dotimes => "dotimes"
  | bind => "let"
  | defineModule => "module"
  | publish => "export"
  | go => "go"

/-- The numbers of arguments. -/
def count : SpecialForm → ArgCount
  | quote | quasiquote | evaluate | expand => .exactly 1
  | define => .exactly 2
  | lambda | when | whenNot | loop | dotimes | bind | defineModule => .atLeast 1
  | defineFunction | defineTransformer | apply => .atLeast 2
  | choose => .between 2 3
  | sequence | attempt | and | or | cond | publish | go => .any

/-- The help line. -/
def help : SpecialForm → String
  | quote => "Return the argument unevaluated"
  | quasiquote => "Quote a template, evaluating (unquote x) and splicing (unquote-splicing xs)"
  | define => "Bind a name in the current scope"
  | lambda => "Create a closure: (fn [params] body...)"
  | defineFunction => "Define a named function: (defn name [params] body...)"
  | defineTransformer => "Define a macro: (defmacro name [params] body...)"
  | sequence => "Evaluate forms in order, returning the last"
  | evaluate => "Evaluate a data structure as code"
  | apply => "Call f with args, the last being a sequence"
  | expand => "Expand a macro call form once without evaluating the result"
  | attempt => "(try body... (catch e handler...) (finally cleanup...))"
  | and => "First falsy value, or the last value; true when empty"
  | or => "First truthy value, or the last value; nil when empty"
  | choose => "(if test then else?) - else defaults to nil"
  | when => "(when test body...)"
  | whenNot => "(unless test body...)"
  | cond => "(cond test expr ... :else expr) - first truthy test wins"
  | loop => "(while test body...) - returns nil"
  | dotimes => "(dotimes [i n] body...) - runs body with i from 0 below n"
  | bind => "(let [name value ...] body...) - bindings are sequential"
  | defineModule => "(module name body...) - define a module in the current scope"
  | publish => "(export name...) - mark names of the enclosing module as public"
  | go => "(go body...) - evaluate body on a new thread, returning a future"

end SpecialForm

end PluginLisp
