import PluginLisp.Pattern.Fold
import PluginLisp.Text.Blank

/-!
The options of a pattern, and the white space and comments that one of them allows.
-/

namespace PluginLisp.Pattern

open Text (isBlank)

/-- The options that a pattern can switch. -/
structure Flags where
  ignoreCase : Bool := false
  multiLine : Bool := false
  dotAll : Bool := false
  swapGreed : Bool := false
  crlf : Bool := false
  verbose : Bool := false
  /-- Whether classes know more than ASCII. Without it nothing may be negated, because the bytes
      beyond ASCII are no characters. -/
  unicode : Bool := true
deriving Inhabited

namespace Flags

/-- Switches the option with the given letter. -/
def switch? (f : Flags) (on : Bool) : Char → Option Flags
  | 'i' => some { f with ignoreCase := on }
  | 'm' => some { f with multiLine := on }
  | 's' => some { f with dotAll := on }
  | 'U' => some { f with swapGreed := on }
  | 'R' => some { f with crlf := on }
  | 'x' => some { f with verbose := on }
  | 'u' => some { f with unicode := on }
  | _ => none

/-- A set of which, where case does not count, all variants are members. -/
def fold (f : Flags) (s : CharSet) : CharSet :=
  if !f.ignoreCase then s else if f.unicode then s.fold else s.foldAscii

/-- The set, or all other characters. -/
def negateIf? (f : Flags) (negated : Bool) (s : CharSet) : Option CharSet :=
  if !negated then some s else if f.unicode then some s.negation else none

/-- The set with its variants, or all other characters. -/
def foldAndNegate? (f : Flags) (negated : Bool) (s : CharSet) : Option CharSet :=
  f.negateIf? negated (f.fold s)

end Flags

/-- What is left after white space and comments, where the options allow them. `steps` bounds the
    number of comments. -/
def skipFrom (f : Flags) : (steps : Nat) → List Char → List Char
  | 0, cs => cs
  | steps + 1, cs =>
      if !f.verbose then cs
      else match cs.dropWhile isBlank with
        | '#' :: rest => skipFrom f steps ((rest.dropWhile (· != '\n')).drop 1)
        | rest => rest

/-- What is left after white space and comments, where the options allow them. -/
def skip (f : Flags) (cs : List Char) : List Char := skipFrom f (cs.length + 1) cs

end PluginLisp.Pattern
