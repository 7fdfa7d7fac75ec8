import PluginLisp.Json.Basic
import PluginLisp.Number.Layout

/-!
The text of a JSON document, on one line or indented by two spaces to the level.
-/

namespace PluginLisp.Json

/-- One character of a quoted text. -/
def escapeChar (c : Char) : List Char :=
  match c with
  | '\x22' => ['\x5c', '\x22']
  | '\x5c' => ['\x5c', '\x5c']
  | '\n' => ['\x5c', 'n']
  | '\r' => ['\x5c', 'r']
  | '\t' => ['\x5c', 't']
  | '\x08' => ['\x5c', 'b']
  | '\x0c' => ['\x5c', 'f']
  | c =>
      if c.toNat < 0x20 then
        ['\x5c', 'u', '0', '0', Nat.digitChar (c.toNat / 16), Nat.digitChar (c.toNat % 16)]
      else [c]

/-- A text between quotes. -/
def quote (s : String) : String :=
  String.ofList ('\x22' :: (s.toList.flatMap escapeChar ++ ['\x22']))

/-- A float that is not written as an integer. -/
def floatText (x : Float) : String :=
  match Number.Kind.ofFloat x with
  | .finite b => Number.scientific b
  | _ => "null"

/-- How the parts of a document are set apart: what stands before each item at a level, before the
    closing bracket, and after the name of a member. -/
structure Style where
  lineBreak : (level : Nat) → String
  afterName : String

/-- Everything on one line without spaces. -/
def compactStyle : Style := ⟨fun _ => "", ":"⟩

/-- Every item on a line of its own. -/
def prettyStyle : Style := ⟨fun level => "\n" ++ "".pushn ' ' (2 * level), ": "⟩

/-- Items between brackets; without items the brackets stand together. -/
def bracketed (style : Style) (level : Nat) (left right : String) (items : List String) : String :=
  if items.isEmpty then left ++ right
  else
    let separator := "," ++ style.lineBreak (level + 1)
    left ++ style.lineBreak (level + 1) ++ separator.intercalate items ++ style.lineBreak level
      ++ right

mutual

/-- The text of a document that stands at the given level. -/
def write (style : Style) (level : Nat) : Json → String
  | null => "null"
  | boolean b => if b then "true" else "false"
  | integer n => Number.integerText n
  | float x => floatText x
  | text s => quote s
  | array items => bracketed style level "[" "]" (writeAll style (level + 1) items)
  | object members =>
      bracketed style level "\x7b" "\x7d" (writeMembers style (level + 1) members)

/-- The texts of several documents. -/
def writeAll (style : Style) (level : Nat) : List Json → List String
  | [] => []
  | j :: rest => write style level j :: writeAll style level rest

/-- The texts of the members of an object. -/
def writeMembers (style : Style) (level : Nat) : List (String × Json) → List String
  | [] => []
  | (name, j) :: rest =>
      (quote name ++ style.afterName ++ write style level j) :: writeMembers style level rest

end

end PluginLisp.Json
