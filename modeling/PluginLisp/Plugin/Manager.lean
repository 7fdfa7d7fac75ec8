import PluginLisp.Builtin.Console
import PluginLisp.Plugin.Basic

/-!
The manager of plugins. It loads plugins after the plugins they depend on, notes which names each one
registered, and takes exactly these names out of the registry when the plugin is unloaded. A load that
fails leaves the registry and the loaded plugins as they were.
-/

namespace PluginLisp

/-- The moments in the life of a plugin. -/
inductive Phase where
  | setUp
  | registration
  | tearDown
deriving DecidableEq, Repr, Inhabited

/-- The name of a moment. -/
def Phase.name : Phase → String
  | setUp => "initialize"
  | registration => "register"
  | tearDown => "shutdown"

/-- A callback of a plugin having run, and the error it failed with, if it did. -/
structure PluginEvent where
  phase : Phase
  plugin : Plugin
  fault : Option Error := none
deriving Inhabited

/-- A loaded plugin with the names it registered, sorted. -/
structure LoadedPlugin where
  plugin : Plugin
  functions : List String
deriving Inhabited

/-- The registry, the loaded plugins by name, and what has happened so far. -/
structure Manager where
  registry : Registry := {}
  loaded : Assoc LoadedPlugin := []
  /-- The callbacks that have run, in order. -/
  events : Array PluginEvent := #[]
  /-- Warnings for the log, in order. -/
  warnings : Array String := #[]
deriving Inhabited

namespace Manager

/-- Whether a plugin is loaded. -/
def isLoaded (m : Manager) (name : String) : Bool := Assoc.has name m.loaded

/-- The names that a loaded plugin registered. -/
def functionsOf? (m : Manager) (name : String) : Option (List String) :=
  (Assoc.get? name m.loaded).map LoadedPlugin.functions

/-- Notes that a callback has run. -/
def note (m : Manager) (phase : Phase) (p : Plugin) (fault : Option Error) : Manager :=
  { m with events := m.events.push ⟨phase, p, fault⟩ }

/-- Adds a warning. -/
def warn (m : Manager) (message : String) : Manager :=
  { m with warnings := m.warnings.push message }

/-- Takes names out of the registry, with a warning for each one that is gone already. -/
def removeAll (gone : String) (m : Manager) : List String → Manager
  | [] => m
  | name :: rest =>
      match m.registry.unregister name with
      | .ok registry => removeAll gone { m with registry } rest
      | .error _ => removeAll gone (m.warn gone) rest

/-- Tears a plugin down, with a warning if that fails. -/
def tearDown (warning : String) (p : Plugin) (m : Manager) : Manager :=
  let m := m.note .tearDown p p.tearDownFault
  if p.tearDownFault.isSome then m.warn warning else m

/-- Sets a plugin up and has it register its builtins: the manager afterwards, and the error if
    either failed. -/
def start (m : Manager) (p : Plugin) : Manager × Option Error :=
  match p.setUp.run m.registry with
  | (registry, some e) => ({ m with registry }.note .setUp p (some e), some e)
  | (registry, none) =>
      let m := m.note .setUp p none
      let (registry, fault) := p.registration.run registry
      ({ m with registry }.note .registration p fault, fault)

/-- Why a plugin cannot be loaded, if so: it has no name, is loaded, or lacks a dependency. -/
def refusal? (m : Manager) (p : Plugin) : Option Error :=
  if p.name = "" then some .invalidPluginName
  else if m.isLoaded p.name then some (.duplicatePlugin p.name)
  else match p.dependencies.find? fun d => !m.isLoaded d with
    | some d => some (.missingDependency p.name d)
    | none => none

/-- Loads a plugin. If that fails, the names it registered are taken out again and it is torn
    down. -/
def load (m : Manager) (p : Plugin) : Except Error Unit × Manager :=
  match m.refusal? p with
  | some e => (.error e, m)
  | none =>
      let before := m.registry
      let (m, fault) := m.start p
      let functions := m.registry.names.filter fun name => !before.has name
      match fault with
      | none => (.ok (), { m with loaded := m.loaded.put p.name ⟨p, functions⟩ })
      | some e =>
          let m := m.removeAll "function already gone during rollback" functions
          (.error e, m.tearDown "shutdown after failed load also failed" p)

/-- The loaded plugins that depend on a plugin, sorted. -/
def dependents (m : Manager) (name : String) : List String :=
  (m.loaded.filter fun (_, entry) => entry.plugin.dependencies.contains name).map (·.1)

/-- Unloads a plugin that no other one depends on, and answers with it. -/
def unload (m : Manager) (name : String) : Except Error Plugin × Manager :=
  match Assoc.get? name m.loaded with
  | none => (.error (.pluginNotLoaded name), m)
  | some entry =>
      match m.dependents name with
      | [] =>
          let m := { m with loaded := Assoc.remove name m.loaded }
          let m := m.removeAll "function already gone at unload" entry.functions
          (.ok entry.plugin, m.tearDown "plugin shutdown failed" entry.plugin)
      | dependents => (.error (.pluginInUse name dependents), m)

/-- Unloads a plugin and loads it again. -/
def reload (m : Manager) (name : String) : Except Error Unit × Manager :=
  match m.unload name with
  | (.error e, m) => (.error e, m)
  | (.ok p, m) => m.load p

/-- Splits off the first plugin whose dependencies are all loaded. -/
def firstReady? (m : Manager) : List Plugin → Option (Plugin × List Plugin)
  | [] => none
  | p :: rest =>
      if p.dependencies.all m.isLoaded then some (p, rest)
      else (firstReady? m rest).map fun (q, others) => (q, p :: others)

/-- The first dependency of a plugin that is neither loaded nor among the given names. -/
def lacking? (m : Manager) (names : List String) (p : Plugin) : Option (String × String) :=
  (p.dependencies.find? fun d => !m.isLoaded d && !names.contains d).map fun d => (p.name, d)

/-- The error for plugins none of which can be loaded: a dependency that is nowhere to be found, or
    else one that is part of a circle. -/
def blockage (m : Manager) (pending : List Plugin) : Error :=
  let names := pending.map Plugin.name
  let (plugin, dependency) :=
    (pending.findSome? (m.lacking? names) <|> pending.head?.bind (m.lacking? [])).getD ("", "")
  .missingDependency plugin dependency

/-- Loads plugins one after the other, always the first one that is ready; `count` bounds their
    number. -/
def loadPending (m : Manager) : (count : Nat) → List Plugin → Except Error Unit × Manager
  | _, [] => (.ok (), m)
  | 0, pending => (.error (m.blockage pending), m)
  | count + 1, pending =>
      match m.firstReady? pending with
      | none => (.error (m.blockage pending), m)
      | some (p, rest) =>
          match m.load p with
          | (.ok (), m) => loadPending m count rest
          | (.error e, m) => (.error e, m)

/-- Loads plugins in an order in which dependencies come first. -/
def loadAll (m : Manager) (plugins : List Plugin) : Except Error Unit × Manager :=
  m.loadPending plugins.length plugins

end Manager

end PluginLisp
