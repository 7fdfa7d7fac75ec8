import PluginLisp.Builtin.ArgCount
import PluginLisp.Libraries
import PluginLisp.Text.Case
import PluginLisp.Template
import PluginLisp.Text.Pieces

/-!
The builtins of the plugin `string`: making, cutting and searching texts. Indices count characters.
-/

namespace PluginLisp

/-- The builtins of the plugin `string`. -/
inductive TextOp where
  | str
  | format
  | join
  | upper
  | lower
  | trim
  | split
  | substring
  | contains
  | replace
  | length
  /-- First match of a pattern. -/
  | find
  /-- Match of a pattern with the whole text. -/
  | fullMatch
deriving DecidableEq, Repr, Inhabited

namespace TextOp

/-- All of them, in the order of registration. -/
def all : List TextOp :=
  [str, format, join, upper, lower, trim, split, substring, contains, replace, length, find,
    fullMatch]

/-- The name a program calls it by. -/
def name : TextOp → String
  | str => "str"
  | format => "format"
  | join => "join"
  | upper => "string-upper"
  | lower => "string-lower"
  | trim => "string-trim"
  | split => "split"
  | substring => "substring"
  | contains => "string-contains?"
  | replace => "string-replace"
  | length => "string-length"
  | find => "re-find"
  | fullMatch => "re-matches"

/-- The numbers of arguments. -/
def count : TextOp → ArgCount
  | str => .any
  | format => .atLeast 1
  | join => .between 1 2
  | substring => .between 2 3
  | split | contains | find | fullMatch => .exactly 2
  | replace => .exactly 3
  | _ => .exactly 1

/-- The help line. -/
def help : TextOp → String
  | str => "Concatenate the display form of every argument"
  | format => "printf-style formatting: %s %d %f %.Nf %%"
  | join => "(join coll) or (join separator coll)"
  | upper => "Upper-case copy"
  | lower => "Lower-case copy"
  | trim => "Copy without surrounding whitespace"
  | split => "Vector of the pieces between separators"
  | substring => "(substring s start end?) - characters from start up to end"
  | contains => "True if s contains the substring"
  | replace => "Replace every occurrence of from with to"
  | length => "Number of characters"
  | find => "First match of the pattern; a vector of groups when the pattern has any"
  | fullMatch => "Match of the pattern against the whole string, or nil"

/-- The characters from one index up to another. -/
def slice (cs : List Char) (start stop : Int) : Except Error String :=
  let length := cs.length
  if start < 0 ∨ length < start then .error (.indexOutOfBounds start length)
  else if stop < 0 ∨ length < stop then .error (.indexOutOfBounds stop length)
  else if stop < start then .error (.invalidArguments "substring" "start is after end")
  else .ok (String.ofList ((cs.drop start.toNat).take (stop - start).toNat))

/-- The text of a group, `nil` if the group took no part. -/
def groupValue : Option String → Value
  | some s => .text s
  | none => .nil

/-- A match as a value: its text, or a vector of its groups if the pattern has any. -/
def matchValue : Option (List (Option String)) → Value
  | none => .nil
  | some [whole] => groupValue whole
  | some groups => .vector (groups.map groupValue)

/-- Reads a pattern for the function `form`: how its first match in a text is found. -/
def readPattern (libraries : Libraries) (form pattern : String) :
    Except Error (String → Option (List (Option String))) :=
  match libraries.readPattern pattern with
  | .ok search => .ok search
  | .error reason => .error (.invalidArguments form ("bad pattern: " ++ reason))

/-- What it does to the values of its arguments. -/
def apply (libraries : Libraries) (cells : Cells) (op : TextOp) (args : List Value) :
    Except Error Value :=
  match op, args with
  | str, _ => .ok (.text (String.join (args.map (Value.display cells))))
  | format, template :: rest => do
      return .text (← Template.expand cells (← template.asText) rest)
  | join, [coll] => return .text (String.join ((← coll.asSeq).map (Value.display cells)))
  | join, [separator, coll] => do
      let parts := (← coll.asSeq).map (Value.display cells)
      return .text ((separator.display cells).intercalate parts)
  | upper, [s] => return .text (Text.upper (← s.asText))
  | lower, [s] => return .text (Text.lower (← s.asText))
  | trim, [s] => return .text (Text.trim (← s.asText))
  | split, [s, separator] => do
      return .vector ((Text.split (← s.asText) (← separator.asText)).map .text)
  | substring, s :: start :: stop => do
      let cs := (← s.asText).toList
      let first ← start.asInt
      let last ← match stop with
        | [] => pure (cs.length : Int)
        | v :: _ => v.asInt
      return .text (← slice cs first last)
  | contains, [s, part] => return .boolean (Text.contains (← s.asText) (← part.asText))
  | replace, [s, old, new] => do
      return .text (Text.replace (← s.asText) (← old.asText) (← new.asText))
  | length, [s] => return .number (Number.ofNat (← s.asText).length)
  | find, [pattern, s] => do
      let search ← readPattern libraries op.name (← pattern.asText)
      return matchValue (search (← s.asText))
  | fullMatch, [pattern, s] => do
      let search ← readPattern libraries op.name ("^(?:" ++ (← pattern.asText) ++ ")$")
      return matchValue (search (← s.asText))
  | _, _ => .error (.arity op.name op.count.describe args.length)

end TextOp

end PluginLisp
