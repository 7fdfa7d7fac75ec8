import PluginLisp.Syntax.Token
import PluginLisp.Error
import PluginLisp.Number.Reading
import PluginLisp.Text.Blank

/-!
Cutting a text into tokens. Between tokens stand spaces, tabs, line ends, commas and comments; a word
runs up to the next delimiter. `scan` answers with all tokens, the last of which marks the end, or
with an error at the start of the token that could not be read.
-/

namespace PluginLisp

/-- The characters that may stand between tokens. -/
def isGap (c : Char) : Bool :=
  c == ' ' || c == '\r' || c == '\t' || c == '\n' || c == ','

/-- The characters that end a word. -/
def isDelimiter (c : Char) : Bool :=
  Text.isBlank c || c == '(' || c == ')' || c == '[' || c == ']' || c == '\x7b' || c == '\x7d'
    || c == '\x22' || c == ';' || c == ','

/-- Part of a word. -/
def isWordChar (c : Char) : Bool := !isDelimiter c

/-- What a letter after a backslash stands for. -/
def unescape? : Char → Option Char
  | 'n' => some '\n'
  | 't' => some '\t'
  | 'r' => some '\r'
  | '\x5c' => some '\x5c'
  | '\x22' => some '\x22'
  | _ => none

/-- Reads a text literal after its opening quote: its content, and how many characters it took
    including the closing quote. -/
def scanText : List Char → Except String (List Char × Nat)
  | [] => .error "Unterminated string"
  | '\x22' :: _ => .ok ([], 1)
  | ['\x5c'] => .error "Unterminated string"
  | '\x5c' :: e :: rest =>
      match unescape? e with
      | some c => (scanText rest).map fun (cs, n) => (c :: cs, n + 2)
      | none => .error ("Invalid escape sequence \\" ++ e.toString)
  | c :: rest => (scanText rest).map fun (cs, n) => (c :: cs, n + 1)

/-- A digit, or a sign before a digit. -/
def looksNumeric : List Char → Bool
  | [] => false
  | c :: rest =>
      Number.isDigit c ||
        ((c == '-' || c == '+') && match rest with
          | d :: _ => Number.isDigit d
          | [] => false)

/-- Reads a word that looks like a number: a decimal if it ends in `N`, a float otherwise. -/
def classifyNumber (word : List Char) : Except String TokenKind :=
  if word.getLast? = some 'N' then .ok (.big (String.ofList word.dropLast))
  else match Number.readFloat? (String.ofList word) with
    | some x => .ok (.number x)
    | none => .error ("Invalid number: " ++ String.ofList word)

/-- What a word is. -/
def classifyWord (word : List Char) : Except String TokenKind :=
  if looksNumeric word then classifyNumber word
  else match String.ofList word with
    | "true" => .ok (.boolean true)
    | "false" => .ok (.boolean false)
    | name => .ok (.symbol name)

/-- Reads the token that starts with `c`: what it is, and how many of the characters after `c` belong
    to it. -/
def scanToken (c : Char) (rest : List Char) : Except String (TokenKind × Nat) :=
  match c with
  | '(' => .ok (.opening .round, 0)
  | ')' => .ok (.closing .round, 0)
  | '[' => .ok (.opening .square, 0)
  | ']' => .ok (.closing .square, 0)
  | '\x7b' => .ok (.opening .curly, 0)
  | '\x7d' => .ok (.closing .curly, 0)
  | '\x27' => .ok (.mark .quote, 0)
  | '\x60' => .ok (.mark .quasiquote, 0)
  | '~' => match rest with
      | '@' :: _ => .ok (.mark .splice, 1)
      | _ => .ok (.mark .unquote, 0)
  | '\x22' => (scanText rest).map fun (cs, n) => (.text (String.ofList cs), n)
  | ':' =>
      let name := rest.takeWhile isWordChar
      if name.isEmpty then .error "Keyword must have a name after `:`"
      else .ok (.keyword (String.ofList name), name.length)
  | _ =>
      let more := rest.takeWhile isWordChar
      (classifyWord (c :: more)).map fun kind => (kind, more.length)

/-- The tokens of a text that starts at the given place. -/
def scanFrom (p : Position) : List Char → Except Error (List Token)
  | [] => .ok [⟨.finish, "", p⟩]
  | c :: rest =>
      if isGap c then scanFrom (p.next c) rest
      else if c = ';' then
        let comment := rest.takeWhile (· != '\n')
        scanFrom (p.past (c :: comment)) (rest.drop comment.length)
      else match scanToken c rest with
        | .error reason => .error (.syntaxFault p.line p.column reason)
        | .ok (kind, extra) =>
            let lexeme := c :: rest.take extra
            (scanFrom (p.past lexeme) (rest.drop extra)).map
              (⟨kind, String.ofList lexeme, p⟩ :: ·)
termination_by cs => cs.length

/-- The tokens of a text, the last of which marks its end. -/
def scan (source : String) : Except Error (List Token) :=
  scanFrom .start source.toList

end PluginLisp
