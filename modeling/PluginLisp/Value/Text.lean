import PluginLisp.Value.Basic
import PluginLisp.Decimal.Text
import PluginLisp.Text.Quoted

/-!
The text of values and forms: as code would have to be written to read them again, as far as that is
possible. What an atom, a channel or a future shows depends on the store, so the printer is told.
-/

namespace PluginLisp

/-- What the printer shows of the things that live in the store. -/
structure Cells where
  /-- The text of an atom's content. -/
  atom : Nat → String
  /-- The capacity of a channel. -/
  channel : Nat → Nat
  /-- The identifier of a future. -/
  future : Nat → String

/-- Texts with a space between them and marks around them. -/
def enclose (left : String) (items : List String) (right : String) : String :=
  left ++ " ".intercalate items ++ right

mutual

/-- The readable text of a value. -/
def Value.show (cells : Cells) : Value → String
  | .nil => "nil"
  | .boolean b => if b then "true" else "false"
  | .number x => Number.render x
  | .decimal d => d.text ++ "N"
  | .text s => Text.quote s
  | .keyword name => ":" ++ name
  | .symbol name => name
  | .list items => enclose "(" (showAll cells items) ")"
  | .vector items => enclose "[" (showAll cells items) "]"
  | .map entries => enclose "\x7b" (showEntries cells entries) "\x7d"
  | .function c => match c.name with
      | some name => "#<fn " ++ name ++ ">"
      | none => "#<fn>"
  | .transformer c => "#<macro " ++ c.displayName ++ ">"
  | .builtin name => "#<builtin " ++ name ++ ">"
  | .operator name => "#<builtin " ++ name ++ ">"
  | .partialCall f bound =>
      "#<partial " ++ f.show cells ++ " +" ++ toString bound.length ++ ">"
  | .complement f => "#<complement " ++ f.show cells ++ ">"
  | .juxt fs => "#<juxt " ++ toString fs.length ++ ">"
  | .comp fs => "#<comp " ++ toString fs.length ++ ">"
  | .atom index => "#<atom " ++ cells.atom index ++ ">"
  | .channel index => "#<chan " ++ toString (cells.channel index) ++ ">"
  | .future index => "#<future " ++ cells.future index ++ ">"
  | .waitGroup _ => "#<wait-group>"
  | .pending c _ => "#<tail-call " ++ c.displayName ++ ">"

/-- The readable texts of several values. -/
def Value.showAll (cells : Cells) : List Value → List String
  | [] => []
  | v :: rest => v.show cells :: Value.showAll cells rest

/-- The entries of a map: each key as a keyword, followed by its value. -/
def Value.showEntries (cells : Cells) : List (String × Value) → List String
  | [] => []
  | (key, v) :: rest => (":" ++ key ++ " " ++ v.show cells) :: Value.showEntries cells rest

end

/-- The text of a value for people: texts as they are, nothing for `nil`, the readable text for the
    rest. -/
def Value.display (cells : Cells) : Value → String
  | .text s => s
  | .nil => ""
  | v => v.show cells

mutual

/-- The text of a form. -/
def Form.show (cells : Cells) : Form → String
  | .number x => Number.render x
  | .big digits => digits ++ "N"
  | .text s => Text.quote s
  | .boolean b => if b then "true" else "false"
  | .keyword name => ":" ++ name
  | .symbol name => name
  | .list items => enclose "(" (Form.showAll cells items) ")"
  | .vector items => enclose "[" (Form.showAll cells items) "]"
  | .table items => enclose "\x7b" (Form.showAll cells items) "\x7d"
  | .literal v => v.show cells

/-- The texts of several forms. -/
def Form.showAll (cells : Cells) : List Form → List String
  | [] => []
  | f :: rest => f.show cells :: Form.showAll cells rest

end

/-- The printer for values that hold nothing from a store. -/
def Cells.none : Cells := ⟨fun _ => "", fun _ => 0, fun _ => ""⟩

end PluginLisp
