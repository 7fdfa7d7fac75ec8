import PluginLisp.Plugin.Manager
import PluginLisp.Plugin.Standard
import PluginLisp.World

/-!
Interpreters: a manager with its plugins, a global scope, and the settings of evaluation. Interpreters
live in a world that several of them can share, and know what is theirs by its number.
-/

namespace PluginLisp

/-- What an interpreter is made from. -/
structure Config where
  /-- The standard plugins to load; all of them if none are named. -/
  plugins : Option (List String) := none
  traced : Bool := false
  libraries : Libraries := .standard
deriving Inhabited

/-- An interpreter. -/
structure Interpreter where
  /-- The number of its manager. -/
  manager : Nat
  traced : Bool
  /-- The number of its global scope. -/
  scope : Nat
  /-- The number of its counter for generated symbols. -/
  counter : Nat
  libraries : Libraries
deriving Inhabited

/-- The standard plugins of the given names, in the standard order. -/
def selectPlugins (names : List String) : Except Error (List Plugin) :=
  match names.find? fun name => (Plugin.standard? name).isNone with
  | some unknown => .error (.unknownPlugin unknown)
  | none => .ok (Plugin.standard.filter fun p => names.contains p.name)

namespace Interpreter

/-- The manager for a configuration. -/
def managerFor (config : Config) : Except Error Manager := do
  let plugins ← match config.plugins with
    | none => .ok Plugin.standard
    | some names => selectPlugins names
  match Manager.loadAll {} plugins with
  | (.ok (), m) => return m
  | (.error e, _) => .error e

/-- Adds a manager's interpreter to a world; its global scope binds `nil`. -/
def ofManager (manager : Manager) (traced : Bool) (libraries : Libraries) (w : World) :
    Interpreter × World :=
  let (manager, s) := w.state.addManager manager
  let (scope, s) := s.addScope none
  let (counter, s) := s.addCounter
  let s := { s with scopes := s.scopes.set scope "nil" .nil }
  (⟨manager, traced, scope, counter, libraries⟩, { w with state := s })

/-- Makes an interpreter in a world. -/
def make (config : Config) (w : World) : Except Error (Interpreter × World) := do
  return ofManager (← managerFor config) config.traced config.libraries w

/-- The manager with all standard plugins. -/
def standardManager : Manager := (Manager.loadAll {} Plugin.standard).2

/-- An interpreter with all standard plugins. -/
def full (w : World) : Interpreter × World := ofManager standardManager false .standard w

/-- The settings of evaluation. -/
def settings (i : Interpreter) : Settings := ⟨i.manager, i.traced, i.counter, i.libraries⟩

/-- The evaluator. -/
def evaluator (i : Interpreter) : Evaluator := .standard i.settings

/-- Evaluates all forms of a text in the global scope; the answer is the last value. -/
def evalSource (i : Interpreter) (source : String) : Machine Value :=
  i.evaluator.evalSource source i.scope

/-- Evaluates a form in the global scope. -/
def evalForm (i : Interpreter) (form : Form) : Machine Value := i.evaluator.eval form i.scope

/-- Evaluates all forms of a file in the global scope; errors tell the file. -/
def evalFile (i : Interpreter) (path : String) : Machine Value :=
  i.evaluator.loadFile path i.scope

end Interpreter

/-- The value of a text by itself: what an interpreter of its own, with all standard plugins, makes of
    it. -/
def World.literal (w : World) (source : String) : Outcome Value × World :=
  let (i, w) := Interpreter.full w
  w.run (i.evalSource source)

end PluginLisp
