import PluginLisp.Registry

/-!
Plugins: named bundles of builtins with other plugins they depend on. What a plugin does when it is
set up and when it registers its builtins is a list of calls on the registry, at the end of which it may
fail.
-/

namespace PluginLisp

/-- A registration of a builtin, or of a second name for what is registered under another one. -/
inductive Registration where
  | builtin (d : Descriptor)
  | secondName (name target : String)
deriving DecidableEq, Repr, Inhabited

/-- Carries out a registration. -/
def Registration.apply (r : Registry) : Registration → Except Error Registry
  | builtin d => r.register d
  | secondName name target => r.registerAlias name target

/-- A call that changes the registry: a registration, or the removal of a name. -/
inductive RegistryCall where
  | registration (made : Registration)
  | removal (name : String)
deriving DecidableEq, Repr, Inhabited

/-- Carries out a call. -/
def RegistryCall.apply (r : Registry) : RegistryCall → Except Error Registry
  | registration made => made.apply r
  | removal name => r.unregister name

/-- What a plugin does to the registry: calls in order, and a fault that follows them. A call that fails
    changes nothing, so that a callback which goes on after one does the same as if it left it out. -/
structure Callback where
  calls : List RegistryCall := []
  fault : Option Error := none
deriving Inhabited

namespace Callback

/-- The callback that makes registrations and nothing else. -/
def registering (registrations : List Registration) (fault : Option Error) : Callback :=
  ⟨registrations.map .registration, fault⟩

/-- Carries out calls up to the first one that fails: the registry that is left, and the error. -/
def runAll (fault : Option Error) (r : Registry) : List RegistryCall → Registry × Option Error
  | [] => (r, fault)
  | call :: rest =>
      match call.apply r with
      | .ok next => runAll fault next rest
      | .error e => (r, some e)

/-- Runs a callback: the registry that is left, and the error if it failed. -/
def run (c : Callback) (r : Registry) : Registry × Option Error := runAll c.fault r c.calls

end Callback

/-- A plugin. -/
structure Plugin where
  name : String
  version : String
  description : String
  /-- The plugins that have to be loaded before it. -/
  dependencies : List String := []
  setUp : Callback := {}
  registration : Callback := {}
  /-- The error with which tearing it down fails, if it does. -/
  tearDownFault : Option Error := none
deriving Inhabited

end PluginLisp
