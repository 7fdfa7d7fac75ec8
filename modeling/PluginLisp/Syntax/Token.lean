/-!
Tokens: the words of the language, each with the text it was read from and the place where it starts.
-/

namespace PluginLisp

/-- A place in a text; lines and columns count from one. -/
structure Position where
  line : Nat
  column : Nat
deriving DecidableEq, Repr, Inhabited

namespace Position

/-- Where a text starts. -/
def start : Position := ⟨1, 1⟩

/-- The place after one more character. -/
def next (p : Position) (c : Char) : Position :=
  if c = '\n' then ⟨p.line + 1, 1⟩ else ⟨p.line, p.column + 1⟩

/-- The place after several more characters. -/
def past (p : Position) (cs : List Char) : Position := cs.foldl next p

end Position

/-- The three kinds of brackets. -/
inductive Bracket where
  | round
  | square
  | curly
deriving DecidableEq, Repr, Inhabited

/-- The marks that may stand before a form. -/
inductive Mark where
  | quote
  | quasiquote
  | unquote
  | splice
deriving DecidableEq, Repr, Inhabited

/-- The symbol that a mark abbreviates. -/
def Mark.symbol : Mark → String
  | .quote => "quote"
  | .quasiquote => "quasiquote"
  | .unquote => "unquote"
  | .splice => "unquote-splicing"

/-- What a token is. -/
inductive TokenKind where
  | number (x : Float)
  /-- A decimal literal, without its `N`. -/
  | big (digits : String)
  | text (s : String)
  | boolean (b : Bool)
  /-- A keyword, without its colon. -/
  | keyword (name : String)
  | symbol (name : String)
  | opening (bracket : Bracket)
  | closing (bracket : Bracket)
  | mark (m : Mark)
  /-- The end of the input. -/
  | finish
deriving Inhabited

/-- How an error refers to a token. -/
def TokenKind.describe : TokenKind → String
  | number _ | big _ => "number"
  | text _ => "string"
  | boolean _ => "boolean"
  | keyword _ => "keyword"
  | symbol _ => "symbol"
  | opening .round => "`(`"
  | closing .round => "`)`"
  | opening .square => "`[`"
  | closing .square => "`]`"
  | opening .curly => "`\x7b`"
  | closing .curly => "`\x7d`"
  | mark .quote => "`'`"
  | mark .quasiquote => "`` ` ``"
  | mark .unquote => "`~`"
  | mark .splice => "`~@`"
  | finish => "end of input"

/-- A token: what it is, the text it was read from, and where that starts. -/
structure Token where
  kind : TokenKind
  lexeme : String
  place : Position
deriving Inhabited

end PluginLisp
