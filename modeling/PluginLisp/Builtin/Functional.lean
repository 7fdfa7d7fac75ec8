import PluginLisp.Builtin.ArgCount

/-!
The builtins of the plugin `functional`: functions over sequences that call a function, and the
combinators that make functions from functions.
-/

namespace PluginLisp

/-- The builtins of the plugin `functional`. -/
inductive FunctionalOp where
  | map
  | filter
  | reduce
  | every
  | some
  | partialCall
  | comp
  | juxt
  | complement
  | constantly
deriving DecidableEq, Repr, Inhabited

namespace FunctionalOp

/-- All of them, in the order of registration. -/
def all : List FunctionalOp :=
  [map, filter, reduce, every, some, partialCall, comp, juxt, complement, constantly]

/-- The name a program calls it by. -/
def name : FunctionalOp → String
  | map => "map"
  | filter => "filter"
  | reduce => "reduce"
  | every => "every?"
  | some => "some"
  | partialCall => "partial"
  | comp => "comp"
  | juxt => "juxt"
  | complement => "complement"
  | constantly => "constantly"

/-- The numbers of arguments. -/
def count : FunctionalOp → ArgCount
  | map => .atLeast 2
  | filter | every | some => .exactly 2
  | reduce => .between 2 3
  | partialCall | juxt => .atLeast 1
  | comp => .any
  | complement | constantly => .exactly 1

/-- The help line. -/
def help : FunctionalOp → String
  | map => "(map f coll & colls) - f applied to items in step, stops at the shortest"
  | filter => "Items for which pred is truthy"
  | reduce => "(reduce f coll) or (reduce f init coll)"
  | every => "True if pred holds for every item"
  | some => "First truthy pred result, or nil"
  | partialCall => "f with leading arguments bound"
  | comp => "Composition, applied right to left; (comp) is identity"
  | juxt => "Function returning a vector of every f applied to the same arguments"
  | complement => "Predicate with negated truthiness"
  | constantly => "Function that ignores its arguments and returns x"

end FunctionalOp

end PluginLisp
