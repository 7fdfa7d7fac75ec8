import PluginLisp.Interpreter

/-!
The command line as a function: from arguments, standard input and files to an exit code and what is
written to the two output streams. Without a file it reads forms from standard input and prints their
values, taking as many lines at a time as it needs for the brackets to be closed.
-/

namespace PluginLisp.CommandLine

/-- How the command is used. -/
def usage : String := "usage: rulisp [FILE] [--trace] [--plugins a,b,c]"

/-- Name and version. -/
def versionText : String := "rulisp " ++ languageVersion

/-- What the arguments ask for. -/
inductive Command where
  | help
  | version
  | run (file : Option String) (config : Config)
deriving Inhabited

/-- The names in a list with commas. -/
def pluginNames (list : String) : List String :=
  ((Text.split list ",").map Text.trim).filter (· != "")

/-- Reads arguments, given the file and the configuration so far. -/
def readArgs (file : Option String) (config : Config) : List String → Except String Command
  | [] => .ok (.run file config)
  | "--trace" :: rest => readArgs file { config with traced := true } rest
  | ["--plugins"] => .error ("--plugins needs a comma separated list\n" ++ usage)
  | "--plugins" :: list :: rest =>
      readArgs file { config with plugins := some (pluginNames list) } rest
  | arg :: rest =>
      if arg = "-h" ∨ arg = "--help" then .ok .help
      else if arg = "-v" ∨ arg = "--version" then .ok .version
      else if arg.startsWith "-" then .error ("unknown flag " ++ arg ++ "\n" ++ usage)
      else if file.isSome then .error ("only one file may be given\n" ++ usage)
      else readArgs (some arg) config rest

/-- A line without the carriage return at its end. -/
def dropReturn (line : String) : String :=
  if line.endsWith "\r" then (line.dropEnd 1).toString else line

/-- The lines of a text; a carriage return before a line break belongs to the break. What follows the
    last break is a line of its own unless it is empty. -/
def linesOf (text : String) : List String :=
  let pieces := Text.split text "\n"
  pieces.dropLast.map dropReturn ++ pieces.getLast?.toList.filter (· != "")

/-- A text with spaces after it. -/
def padRight (width : Nat) (s : String) : String := s ++ "".pushn ' ' (width - s.length)

/-- A conversation: the interpreter and its world, whose output it writes to, the lines that do not
    make up whole forms yet, and what was written to the error stream. -/
structure Dialogue where
  interpreter : Interpreter
  world : World
  pending : String := ""
  errors : String := ""
  /-- Why the program has broken off, if it has. -/
  broken : Option String := none
deriving Inhabited

namespace Dialogue

/-- Writes to the output. -/
def print (d : Dialogue) (text : String) : Dialogue :=
  { d with world := { d.world with state := d.world.state.print text } }

/-- The manager of the interpreter. -/
def manager (d : Dialogue) : Manager := d.world.state.manager d.interpreter.manager

/-- Asks for a line. -/
def prompt (d : Dialogue) : Dialogue :=
  d.print (if d.pending.isEmpty then "rulisp> " else "   ...> ")

/-- Lists the loaded plugins. -/
def listPlugins (d : Dialogue) : Dialogue :=
  d.print (String.join (d.manager.loaded.map fun (name, entry) =>
    padRight 12 name ++ " " ++ padRight 8 entry.plugin.version ++ " " ++ entry.plugin.description
      ++ "\n"))

/-- Lists the builtins by category. -/
def listFunctions (d : Dialogue) : Dialogue :=
  let registry := d.manager.registry
  d.print (String.join (registry.categories.map fun category =>
    category ++ ": " ++ " ".intercalate (registry.namesIn category) ++ "\n"))

/-- Evaluates the pending lines and prints the value or the error. -/
def answer (d : Dialogue) : Dialogue :=
  let (outcome, world) := d.world.run (d.interpreter.evalSource d.pending)
  let d := { d with world, pending := "" }
  match outcome with
  | .ok v => d.print (v.show world.state.cells ++ "\n")
  | .error e => match e.panic? with
      | some reason => { d with broken := some reason }
      | none => { d with errors := d.errors ++ "Error: " ++ e.message ++ "\n" }
  | .exhausted => d

/-- Takes a line as a part of the program. -/
def takeLine (d : Dialogue) (line : String) : Dialogue :=
  let d := { d with pending := d.pending ++ line ++ "\n" }
  if isIncomplete d.pending then d else d.answer

/-- Goes through the lines of the input, as long as the program does not break off; at its end the
    output ends with a line break. -/
def converse (d : Dialogue) (lines : List String) : Dialogue :=
  if d.broken.isSome then d
  else
    let d := d.prompt
    match lines with
    | [] => d.print "\n"
    | line :: rest =>
        if d.pending.isEmpty then
          match Text.trim line with
          | "" => converse d rest
          | ":quit" => d
          | ":q" => d
          | ":plugins" => converse d.listPlugins rest
          | ":functions" => converse d.listFunctions rest
          | _ => converse (d.takeLine line) rest
        else converse (d.takeLine line) rest

end Dialogue

/-- The environment variables in a text of entries `NAME=value`, each of which ends with a zero
    byte. -/
def environmentOf (text : String) : Assoc String :=
  (Text.split text "\x00").foldl (fun entries entry =>
    let cs := entry.toList
    match cs.dropWhile (· != '=') with
    | [] => entries
    | _ :: value =>
        entries.put (String.ofList (cs.takeWhile (· != '='))) (String.ofList value)) []

/-- How a run of the command ends. -/
structure Report where
  exitCode : Nat := 0
  output : String := ""
  errors : String := ""
  /-- The world that is left. -/
  world : World := {}
deriving Inhabited

/-- The entries of the log that are shown: those that warn of something. -/
def logLines (libraries : Libraries) (s : State) : String :=
  String.join ((s.log.toList.filter fun entry => entry.level = .warn ∨ entry.level = .error).map
    fun entry => libraries.timestamp (s.clock / Evaluator.millisecond) ++ " "
      ++ padRight 5 (Text.upper entry.level.name) ++ " " ++ entry.message ++ "\n")

/-- The end of a run that failed. -/
def failure (libraries : Libraries) (w : World) (reason : String) : Report :=
  { exitCode := 1, output := w.state.output, world := w
    errors := logLines libraries w.state ++ "Error: " ++ reason ++ "\n" }

/-- The exit code of a program that has broken off. -/
def brokenCode : Nat := 101

/-- Runs a file. Where the program breaks off, only the reason is shown, without its place. -/
def runFile (i : Interpreter) (w : World) (path : String) : Report :=
  match w.run (i.evalFile path) with
  | (.error e, w) => match e.panic? with
      | some reason =>
          { exitCode := brokenCode, output := w.state.output, world := w
            errors := logLines i.libraries w.state ++ reason ++ "\n" }
      | none => failure i.libraries w (": ".intercalate e.chain)
  | (_, w) => { output := w.state.output, errors := logLines i.libraries w.state, world := w }

/-- Reads forms from standard input and prints their values. -/
def runDialogue (i : Interpreter) (w : World) (input : String) : Report :=
  let start : Dialogue := { interpreter := i, world := w }
  let d := (start.print (versionText ++ " (:plugins, :functions, :quit)\n")).converse (linesOf input)
  let errors := logLines i.libraries d.world.state ++ d.errors
  match d.broken with
  | some reason =>
      { exitCode := brokenCode, output := d.world.state.output, world := d.world
        errors := errors ++ reason ++ "\n" }
  | none => { output := d.world.state.output, errors, world := d.world }

/-- Runs the command in a world. -/
def run (w : World) (args : List String) (input : String) : Report :=
  match readArgs none {} args with
  | .error reason => failure .standard w reason
  | .ok .help => { output := usage ++ "\n", world := w }
  | .ok .version => { output := versionText ++ "\n", world := w }
  | .ok (.run file config) =>
      match Interpreter.make config w with
      | .error e =>
          failure config.libraries w ("failed to start interpreter: " ++ ": ".intercalate e.chain)
      | .ok (i, w) =>
          match file with
          | some path => runFile i w path
          | none => runDialogue i w input

end PluginLisp.CommandLine
