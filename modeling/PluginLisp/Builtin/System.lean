import PluginLisp.Builtin.ArgCount

/-!
The builtins of the plugin `system`: the clock, identifiers, environment variables, and questions
about the registry.
-/

namespace PluginLisp

/-- The builtins of the plugin `system`. -/
inductive SystemOp where
  | now
  | uuid
  | setting
  | help
  | functions
deriving DecidableEq, Repr, Inhabited

namespace SystemOp

/-- All of them, in the order of registration. -/
def all : List SystemOp := [now, uuid, setting, help, functions]

/-- The name a program calls it by. -/
def name : SystemOp → String
  | now => "now"
  | uuid => "uuid"
  | setting => "env-var"
  | help => "help"
  | functions => "functions"

/-- The numbers of arguments. -/
def count : SystemOp → ArgCount
  | now | functions => .between 0 1
  | uuid => .exactly 0
  | setting => .between 1 2
  | help => .exactly 1

/-- The help line. -/
def helpLine : SystemOp → String
  | now => "(now) - milliseconds since the Unix epoch; (now :iso) - RFC 3339 timestamp"
  | uuid => "Random (v4) UUID string"
  | setting => "(env-var name default?) - environment variable, or default (nil) when unset"
  | help => "(help f) - help line for a builtin, or nil"
  | functions => "(functions category?) - sorted names of registered functions"

end SystemOp

end PluginLisp
