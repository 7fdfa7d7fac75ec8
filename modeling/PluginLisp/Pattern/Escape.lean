import PluginLisp.Pattern.Basic
import PluginLisp.Pattern.Flags

/-!
Escapes: what a backslash and the characters after it stand for.
-/

namespace PluginLisp.Pattern

/-- What one character or escape stands for. -/
inductive Element where
  | literal (c : Char)
  | set (s : CharSet)
  | anchor (a : Anchor)

/-- A literal by its code, if there is such a character. -/
def Element.ofCode? (code : Nat) : Option Element :=
  if code.isValidChar then some (.literal (Char.ofNat code)) else none

/-- The value of a hexadecimal digit. -/
def hexDigit? (c : Char) : Option Nat :=
  let n := c.toNat
  if 48 ≤ n ∧ n ≤ 57 then some (n - 48)
  else if 97 ≤ n ∧ n ≤ 102 then some (n - 87)
  else if 65 ≤ n ∧ n ≤ 70 then some (n - 55)
  else none

/-- A fixed number of hexadecimal digits. -/
def readHexDigits? (f : Flags) : (count code : Nat) → List Char → Option (Nat × List Char)
  | 0, code, cs => some (code, cs)
  | count + 1, code, c :: rest => do
      readHexDigits? f count (16 * code + (← hexDigit? c)) (skip f rest)
  | _ + 1, _, [] => none

/-- The text up to a closing brace, without skipped space, and what comes after the brace. -/
def readBraced? (f : Flags) : (steps : Nat) → List Char → Option (List Char × List Char)
  | 0, _ => none
  | steps + 1, cs =>
      match skip f cs with
      | '\x7d' :: rest => some ([], rest)
      | c :: rest => do
          let (name, rest) ← readBraced? f steps rest
          return (c :: name, rest)
      | [] => none

/-- A character by its code, after the letter that starts the escape. -/
def readHex? (f : Flags) (digits : Nat) (cs : List Char) : Option (Element × List Char) :=
  match skip f cs with
  | '\x7b' :: rest => do
      let (name, rest) ← readBraced? f (rest.length + 1) rest
      let codes ← name.mapM hexDigit?
      if codes.isEmpty then none
      else
        let p ← Element.ofCode? (codes.foldl (fun n d => 16 * n + d) 0)
        return (p, skip f rest)
  | rest => do
      let (code, rest) ← readHexDigits? f digits 0 rest
      if !f.unicode && digits == 2 && 0x7f < code then none
      else return (← Element.ofCode? code, rest)

/-- The part of a list before the first place where `mark` stands, and what comes after it. -/
def cutAt? (mark : List Char) : List Char → Option (List Char × List Char)
  | [] => none
  | c :: rest =>
      if mark.isPrefixOf (c :: rest) then some ([], rest.drop (mark.length - 1))
      else (cutAt? mark rest).map fun (left, right) => (c :: left, right)

/-- The set of a property as it stands between the braces, and whether it is all other characters
    that are meant. -/
def readPropertyName? (name : List Char) : Option (CharSet × Bool) :=
  match cutAt? ['!', '='] name with
  | some (n, v) => (CharSet.propertyValue? (String.ofList n) (String.ofList v)).map (·, true)
  | none =>
      match cutAt? [':'] name <|> cutAt? ['='] name with
      | some (n, v) => (CharSet.propertyValue? (String.ofList n) (String.ofList v)).map (·, false)
      | none => (CharSet.property? (String.ofList name)).map (·, false)

/-- A property, after the letter that starts the escape. -/
def readProperty? (f : Flags) (negated : Bool) (cs : List Char) : Option (Element × List Char) := do
  let (name, rest) ← match skip f cs with
    | '\x7b' :: rest => readBraced? f (rest.length + 1) rest
    | '\x5c' :: _ => none
    | c :: rest => some ([c], skip f rest)
    | [] => none
  if !f.unicode then none
  else
    let (s, unequal) ← readPropertyName? name
    return (.set (← f.foldAndNegate? (negated != unequal) s), rest)

/-- The characters that always have to be escaped to stand for themselves, and those that may be:
    all of ASCII that is neither a letter, a digit nor an angle bracket. -/
def isEscapable (c : Char) : Bool := c.toNat < 128 && !c.isAlphanum && c != '<' && c != '>'

/-- The sets that have a letter of their own. -/
def letterSet? (f : Flags) : Char → Option CharSet
  | 'd' => some (if f.unicode then .decimalNumber else .asciiDigit)
  | 's' => some (if f.unicode then .whiteSpace else .asciiBlank)
  | 'w' => some (if f.unicode then .word else .asciiWord)
  | _ => none

/-- The special word edges by their names. -/
def namedEdge? (wide : Bool) : String → Option Anchor
  | "start" => some (.wordStart wide)
  | "end" => some (.wordEnd wide)
  | "start-half" => some (.halfStart wide)
  | "end-half" => some (.halfEnd wide)
  | _ => none

/-- Whether a character may stand in the name of a special word edge. -/
def isEdgeChar (c : Char) : Bool := c.isAlpha || c == '-'

/-- A word edge: a name in braces makes it a special one, and what cannot be a name is left to be a
    repetition. -/
def readEdge? (f : Flags) (cs : List Char) : Option (Element × List Char) :=
  match cs with
  | '\x7b' :: rest =>
      match skip f rest with
      | [] => none
      | c :: more =>
          if isEdgeChar c then do
            let (name, rest) ← readBraced? f (more.length + 2) (c :: more)
            return (.anchor (← namedEdge? f.unicode (String.ofList name)), rest)
          else some (.anchor (.wordEdge f.unicode), cs)
  | _ => some (.anchor (.wordEdge f.unicode), cs)

/-- The escapes of a single letter that stand for a character. -/
def controlLetter? : Char → Option Char
  | 'a' => some '\x07'
  | 'f' => some '\x0c'
  | 't' => some '\t'
  | 'n' => some '\n'
  | 'r' => some '\r'
  | 'v' => some '\x0b'
  | _ => none

/-- An escape, after its backslash. -/
def readEscape? (f : Flags) : List Char → Option (Element × List Char)
  | [] => none
  | c :: rest =>
      match c with
      | 'x' => readHex? f 2 rest
      | 'u' => readHex? f 4 rest
      | 'U' => readHex? f 8 rest
      | 'p' => readProperty? f false rest
      | 'P' => readProperty? f true rest
      | 'A' => some (.anchor .textStart, rest)
      | 'z' => some (.anchor .textEnd, rest)
      | 'b' => readEdge? f rest
      | 'B' => some (.anchor (.noWordEdge f.unicode), rest)
      | '<' => some (.anchor (.wordStart f.unicode), rest)
      | '>' => some (.anchor (.wordEnd f.unicode), rest)
      | c =>
          if isEscapable c then some (.literal c, rest)
          else match controlLetter? c, letterSet? f c, letterSet? f c.toLower with
            | some k, _, _ => some (.literal k, rest)
            | none, some s, _ => some (.set s, rest)
            | none, none, some s => (f.negateIf? true s).map fun s => (.set s, rest)
            | none, none, none => none

end PluginLisp.Pattern
