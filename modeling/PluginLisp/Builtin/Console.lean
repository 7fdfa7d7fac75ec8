import PluginLisp.Builtin.ArgCount

/-!
The builtins of the plugin `io`: console output, files and the log.
-/

namespace PluginLisp

/-- How weighty a log entry is. -/
inductive LogLevel where
  | trace
  | debug
  | info
  | warn
  | error
deriving DecidableEq, Repr, Inhabited

namespace LogLevel

/-- The name of a level. -/
def name : LogLevel → String
  | trace => "trace"
  | debug => "debug"
  | info => "info"
  | warn => "warn"
  | error => "error"

/-- The level of a name. -/
def ofName? : String → Option LogLevel
  | "trace" => some trace
  | "debug" => some debug
  | "info" => some info
  | "warn" => some warn
  | "error" => some error
  | _ => none

end LogLevel

/-- An entry of the log. -/
structure LogEntry where
  level : LogLevel
  message : String
deriving DecidableEq, Repr, Inhabited

/-- The builtins of the plugin `io`. -/
inductive ConsoleOp where
  | print
  | println
  /-- The readable text of values. -/
  | readable
  | readFile
  | writeFile
  | fileExists
  | loadFile
  | log
deriving DecidableEq, Repr, Inhabited

namespace ConsoleOp

/-- All of them, in the order of registration. -/
def all : List ConsoleOp :=
  [print, println, readable, readFile, writeFile, fileExists, loadFile, log]

/-- The name a program calls it by. -/
def name : ConsoleOp → String
  | print => "print"
  | println => "println"
  | readable => "pr-str"
  | readFile => "read-file"
  | writeFile => "write-file"
  | fileExists => "file-exists?"
  | loadFile => "load-file"
  | log => "log"

/-- The numbers of arguments. -/
def count : ConsoleOp → ArgCount
  | print | println | readable => .any
  | readFile | fileExists | loadFile => .exactly 1
  | writeFile => .exactly 2
  | log => .atLeast 1

/-- The help line. -/
def help : ConsoleOp → String
  | print => "Print arguments separated by spaces"
  | println => "Print arguments followed by a newline"
  | readable => "Readable representation of the arguments"
  | readFile => "Contents of a file as a string"
  | writeFile => "Write a string to a file, replacing it"
  | fileExists => "True if the path exists"
  | loadFile => "Evaluate every form of a source file in the current scope"
  | log => "(log :level message...) - emit a tracing event; level defaults to :info"

end ConsoleOp

end PluginLisp
