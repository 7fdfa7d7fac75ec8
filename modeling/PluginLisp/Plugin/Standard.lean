import PluginLisp.Plugin.Basic

/-!
The plugins that come with the language, as it is built without HTTP: that feature, which can be left
out of a build, adds a plugin for requests to servers.
-/

namespace PluginLisp

/-- The version of the language and of its plugins. -/
def languageVersion : String := "0.3.0"

/-- A plugin whose category is its name, from its builtins and the second names of some. -/
def standardPlugin (name description : String) (dependencies : List String) (builtins : List Builtin)
    (aliases : List (String × String) := []) : Plugin :=
  { name, description, dependencies
    version := languageVersion
    registration := .registering
      (builtins.map (fun b => .builtin (.ofBuiltin name b))
        ++ aliases.map fun (second, target) => .secondName second target) none }

/-- Special forms as builtins. -/
def formBuiltins (forms : List SpecialForm) : List Builtin := forms.map .form

/-- Functions as builtins. -/
def primitives {α : Type} (make : α → Primitive) (ops : List α) : List Builtin :=
  ops.map fun op => .primitive (make op)

namespace Plugin

/-- Quoting, definitions, closures, macros and errors. -/
def core : Plugin :=
  standardPlugin "core" "Special forms: quote, def, fn, defmacro, do, try and friends" []
    (formBuiltins [.quote, .quasiquote, .define, .lambda, .defineFunction, .defineTransformer,
        .sequence, .evaluate, .apply]
      ++ primitives .general [.identity, .typeOf, .freshSymbol]
      ++ [.form .expand, .primitive (.general .throw), .form .attempt])

/-- Conjunction, disjunction and negation. -/
def logical : Plugin :=
  standardPlugin "logical" "Short-circuiting and/or and boolean negation" []
    [.form .and, .form .or, .primitive (.general .not)]

/-- Conditionals and loops. -/
def control : Plugin :=
  standardPlugin "control" "Conditionals and loops" ["logical"]
    (formBuiltins [.choose, .when, .whenNot, .cond, .loop, .dotimes])

/-- Local bindings. -/
def binding : Plugin :=
  standardPlugin "binding" "Lexically scoped local bindings" ["core"] [.form .bind]

/-- Arithmetic. -/
def math : Plugin :=
  standardPlugin "math" "Arithmetic with Number and BigNumber promotion" []
    (primitives .math MathOp.all)

/-- Equality and order. -/
def comparison : Plugin :=
  standardPlugin "comparison" "Equality, ordering and numeric predicates" []
    (primitives .comparison ComparisonOp.all)

/-- Lists and vectors. -/
def list : Plugin :=
  standardPlugin "list" "Lists, vectors and sequence operations" []
    (primitives .sequence SequenceOp.all)

/-- Functions that take or make functions. -/
def functional : Plugin :=
  standardPlugin "functional" "Higher-order sequence functions and combinators" ["core"]
    (primitives .functional FunctionalOp.all)

/-- Texts. -/
def string : Plugin :=
  standardPlugin "string" "String functions and regular expressions" []
    (primitives .text TextOp.all)
    [("upper-case", "string-upper"), ("lower-case", "string-lower"), ("trim", "string-trim")]

/-- Maps. -/
def hashmap : Plugin :=
  standardPlugin "hashmap" "Hash maps keyed by strings and keywords" []
    (primitives .table TableOp.all)

/-- JSON. -/
def json : Plugin :=
  standardPlugin "json" "JSON encoding and decoding" ["hashmap"] (primitives .json JsonOp.all)
    [("to-json", "json-encode"), ("from-json", "json-decode")]

/-- Console, files and log. -/
def io : Plugin :=
  standardPlugin "io" "Console output, file access and logging" []
    (primitives .console ConsoleOp.all)

/-- Atoms. -/
def atom : Plugin :=
  standardPlugin "atom" "Mutable atoms shared between closures and threads" []
    (primitives .atom AtomOp.all)

/-- Threads, channels and wait groups. -/
def concurrency : Plugin :=
  standardPlugin "concurrency" "go blocks, channels and wait groups" ["core"]
    (.form .go :: primitives .thread ThreadOp.all)

/-- Modules. -/
def modules : Plugin :=
  standardPlugin "module" "Modules with exported members" ["core"]
    (formBuiltins [.defineModule, .publish])

/-- Encodings of bytes. -/
def encoding : Plugin :=
  standardPlugin "encoding" "Base64 and hex encoding, SHA-256 digests" []
    (primitives .encoding EncodingOp.all)

/-- Clock, identifiers, environment variables and help. -/
def system : Plugin :=
  standardPlugin "system" "Time, ids, environment variables and function help" []
    (primitives .system SystemOp.all)

/-- All of them. -/
def standard : List Plugin :=
  [core, logical, control, binding, math, comparison, list, functional, string, hashmap, json, io,
    atom, concurrency, modules, encoding, system]

/-- The standard plugin of a name. -/
def standard? (name : String) : Option Plugin := standard.find? fun p => p.name == name

end Plugin

end PluginLisp
