/-!
Errors as causes. Every cause that reading, evaluation or plugin management can report is one
constructor; `Error.message` is the only place that words them. The two decorations, the file an
error came from and the calls it passed through, wrap another error.
-/

namespace PluginLisp

/-- One call that an error passed through: the name of what was called, and the call as written. -/
structure CallFrame where
  name : String
  form : String
deriving DecidableEq, Repr, Inhabited

/-- What can go wrong. -/
inductive Error where
  /-- The text is no sequence of tokens, or the tokens no sequence of forms. -/
  | syntaxFault (line column : Nat) (reason : String)
  /-- Text or code that does not have the shape it needs. -/
  | malformed (reason : String)
  /-- A form was asked for where the input ends. -/
  | unexpectedEnd
  /-- A text that does not write a decimal, or a float that is none. -/
  | invalidDecimal (text : String)
  | undefinedSymbol (name : String)
  | undefinedModule (name : String)
  | undefinedMember (moduleName name : String)
  | invalidModuleAccess (name : String)
  | arity (function expected : String) (got : Nat)
  | type (expected got : String)
  | notCallable (typeName : String)
  | emptyList
  | divisionByZero
  | indexOutOfBounds (index : Int) (length : Nat)
  | invalidArguments (function reason : String)
  | duplicateFunction (name : String)
  | unknownFunction (name : String)
  | duplicatePlugin (name : String)
  | invalidPluginName
  | missingDependency (plugin dependency : String)
  | pluginInUse (plugin : String) (dependents : List String)
  | pluginNotLoaded (name : String)
  | unknownPlugin (name : String)
  /-- A background evaluation broke off. -/
  | thread (reason : String)
  | channelClosed
  /-- The file system refused. -/
  | file (reason : String)
  /-- A value has no JSON form, or a text is not JSON. -/
  | json (reason : String)
  /-- Raised by the program itself. -/
  | user (text : String)
  | runtime (reason : String)
  /-- The program has broken off, for an operation of its own that failed. No handler is told. -/
  | panic (reason : String)
  /-- An error met while running a file. -/
  | inFile (path : String) (cause : Error)
  /-- An error with the calls it passed through, innermost first. -/
  | traced (cause : Error) (frames : List CallFrame)
deriving DecidableEq, Repr, Inhabited

namespace Error

/-- The frames of a trace, one to a line. -/
def frameLines (frames : List CallFrame) : String :=
  "\n".intercalate (frames.map fun f => "  at " ++ f.name ++ " " ++ f.form)

/-- The text of an error. -/
def message : Error → String
  | syntaxFault line column reason =>
      "Syntax error at line " ++ toString line ++ ", column " ++ toString column ++ ": " ++ reason
  | malformed reason => "Parse error: " ++ reason
  | unexpectedEnd => "Unexpected end of input"
  | invalidDecimal text => "Invalid big number: " ++ text
  | undefinedSymbol name => "Undefined symbol: " ++ name
  | undefinedModule name => "Undefined module: " ++ name
  | undefinedMember moduleName name => "Undefined symbol in module " ++ moduleName ++ ": " ++ name
  | invalidModuleAccess name => "Invalid module access: " ++ name
  | arity function expected got =>
      "Wrong number of arguments to " ++ function ++ ": expected " ++ expected ++ ", got "
        ++ toString got
  | type expected got => "Type error: expected " ++ expected ++ ", got " ++ got
  | notCallable typeName => "Cannot call non-function: " ++ typeName
  | emptyList => "Cannot evaluate empty list"
  | divisionByZero => "Division by zero"
  | indexOutOfBounds index length =>
      "Index out of bounds: " ++ toString index ++ " for collection of length " ++ toString length
  | invalidArguments function reason => "Invalid arguments for " ++ function ++ ": " ++ reason
  | duplicateFunction name => "Function already registered: " ++ name
  | unknownFunction name => "Function not registered: " ++ name
  | duplicatePlugin name => "Plugin already loaded: " ++ name
  | invalidPluginName => "Plugin name cannot be empty"
  | missingDependency plugin dependency =>
      "Plugin " ++ plugin ++ " depends on " ++ dependency ++ ", which is not loaded"
  | pluginInUse plugin dependents =>
      "Plugin " ++ plugin ++ " is required by: " ++ ", ".intercalate dependents
  | pluginNotLoaded name => "Plugin not loaded: " ++ name
  | unknownPlugin name => "Unknown plugin: " ++ name
  | thread reason => "Thread error: " ++ reason
  | channelClosed => "Send on closed channel"
  | file reason => "IO error: " ++ reason
  | json reason => "JSON error: " ++ reason
  | user text => "User error: " ++ text
  | runtime reason => "Runtime error: " ++ reason
  | panic reason => reason
  | inFile path cause => cause.message ++ " in file " ++ path
  | traced cause frames => cause.message ++ "\n" ++ frameLines frames

/-- The error under all decorations. -/
def root : Error → Error
  | inFile _ cause => cause.root
  | traced cause _ => cause.root
  | e => e

/-- The reason why the program has broken off, if it has. -/
def panic? (e : Error) : Option String :=
  match e.root with
  | panic reason => some reason
  | _ => none

/-- The frames on an error: those of the outermost trace. -/
def frames : Error → List CallFrame
  | inFile _ cause => cause.frames
  | traced _ frames => frames
  | _ => []

/-- Adds a frame: to the trace if the error is one, as the start of a trace otherwise. -/
def withFrame (frame : CallFrame) : Error → Error
  | traced cause frames => traced cause (frames ++ [frame])
  | e => traced e [frame]

/-- The texts of an error and of what it wraps, outermost first. -/
def chain : Error → List String
  | e@(inFile _ cause) => e.message :: cause.chain
  | e@(traced cause _) => e.message :: cause.chain
  | e => [e.message]

/-- What a handler for the error is told: a text raised by the program comes through as it is. -/
def caughtText (e : Error) : String :=
  match e.root with
  | user text => text
  | other => other.message

end Error

end PluginLisp
