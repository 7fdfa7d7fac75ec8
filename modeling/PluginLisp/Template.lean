import PluginLisp.Value.Text
import PluginLisp.Value.View

/-!
Templates: texts in which directives stand for the next argument. `%s` is its text for people, `%d`
an integer, `%f` a number with six decimal places or with as many as a precision asks for, and `%%` a
percent sign.
-/

namespace PluginLisp.Template

/-- The kinds of directives. -/
inductive Directive where
  | percent
  | text
  | integer
  | float
deriving DecidableEq, Repr

namespace Directive

/-- The directive of a letter. -/
def ofLetter? : Char → Option Directive
  | '%' => some percent
  | 's' => some text
  | 'd' => some integer
  | 'f' => some float
  | _ => none

/-- The letter of a directive. -/
def letter : Directive → String
  | percent => "%"
  | text => "s"
  | integer => "d"
  | float => "f"

end Directive

/-- A fault of a template or of its arguments. -/
def fault (reason : String) : Error := .invalidArguments "format" reason

/-- Decimal places when no precision is given. -/
def defaultPlaces : Nat := 6

/-- The text of an argument for a directive. -/
def argumentText (cells : Cells) (d : Directive) (places : Option Nat) (v : Value) :
    Except Error String :=
  match d with
  | .percent => .ok "%"
  | .text => .ok (v.display cells)
  | .integer => return Number.integerText (← v.asInt)
  | .float => return Number.fixed (places.getD defaultPlaces) (← v.asNumber)

/-- The text of a directive and the arguments it leaves. -/
def expandDirective (cells : Cells) (d : Directive) (places : Option Nat) (args : List Value) :
    Except Error (String × List Value) :=
  match d, args with
  | .percent, args => .ok ("%", args)
  | d, v :: rest => return (← argumentText cells d places v, rest)
  | d, [] => .error (fault ("missing argument for %" ++ d.letter))

/-- The precision between a percent sign and its letter: none, or a point and digits that write a
    number of sixty-four bits. Also the rest of the template. -/
def readPrecision : List Char → Except Error (Option Nat × List Char)
  | '.' :: rest =>
      let digits := rest.takeWhile Number.isDigit
      let n := Number.digitsValue digits
      if digits.isEmpty || Number.twoPow 64 ≤ n then .error (fault "bad precision")
      else .ok (some n, rest.drop digits.length)
  | cs => .ok (none, cs)

/-- Expands a template with arguments; `steps` bounds the number of its parts. -/
def expandFrom (cells : Cells) : (steps : Nat) → List Value → List Char → Except Error String
  | 0, _, _ => .ok ""
  | _ + 1, _, [] => .ok ""
  | steps + 1, args, '%' :: rest => do
      let (places, rest) ← readPrecision rest
      match rest with
      | [] => .error (fault "template ends with %")
      | c :: rest =>
          match Directive.ofLetter? c with
          | none => .error (fault ("unknown directive %" ++ c.toString))
          | some d =>
              let (piece, args) ← expandDirective cells d places args
              let tail ← expandFrom cells steps args rest
              return piece ++ tail
  | steps + 1, args, c :: rest => do
      let tail ← expandFrom cells steps args rest
      return c.toString ++ tail

/-- Expands a template with arguments; arguments that no directive asks for are ignored. -/
def expand (cells : Cells) (template : String) (args : List Value) : Except Error String :=
  let cs := template.toList
  expandFrom cells cs.length args cs

end PluginLisp.Template
