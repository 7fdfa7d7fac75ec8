import PluginLisp.Syntax.Scan
import PluginLisp.Value.Basic

/-!
Reading forms from tokens. The reader goes through the tokens once and keeps the constructs that are
still open on a stack: brackets with the forms read so far, and marks that wait for their form.
-/

namespace PluginLisp

/-- A construct that has begun and not ended. -/
inductive Pending where
  /-- An open bracket with the forms inside it so far, last first. -/
  | bracket (kind : Bracket) (opener : Token) (items : List Form)
  /-- A mark that waits for its form. -/
  | mark (m : Mark) (token : Token)

/-- What one more token brings about. -/
inductive ReadStep where
  | form (f : Form)
  | pending (stack : List Pending)
  | fail (e : Error)

/-- An error at a token. -/
def Token.fault (t : Token) (reason : String) : Error :=
  .syntaxFault t.place.line t.place.column reason

/-- Hands a finished form to the innermost open construct; marks are done with it at once. -/
def supply : Form → List Pending → ReadStep
  | f, [] => .form f
  | f, .mark m _ :: rest => supply (.list [.symbol m.symbol, f]) rest
  | f, .bracket kind opener items :: rest => .pending (.bracket kind opener (f :: items) :: rest)

/-- The form of a closed bracket; the forms of a map literal come in pairs. -/
def closeBracket (kind : Bracket) (opener : Token) (items : List Form) : Except Error Form :=
  match kind with
  | .round => .ok (.list items)
  | .square => .ok (.vector items)
  | .curly =>
      if items.length % 2 = 0 then .ok (.table items)
      else .error (opener.fault "Map literal must contain an even number of forms")

/-- The input ended while constructs were open. -/
def unfinished : List Pending → Error
  | [] => .unexpectedEnd
  | .bracket kind opener _ :: _ =>
      opener.fault ("Unclosed " ++ opener.kind.describe ++ ", expected "
        ++ (TokenKind.closing kind).describe)
  | .mark _ token :: _ => token.fault ("Expected a form after " ++ token.kind.describe)

/-- One step of the reader. -/
def readStep (stack : List Pending) (t : Token) : ReadStep :=
  match t.kind with
  | .number x => supply (.number x) stack
  | .big digits => supply (.big digits) stack
  | .text s => supply (.text s) stack
  | .boolean b => supply (.boolean b) stack
  | .keyword name => supply (.keyword name) stack
  | .symbol name => supply (.symbol name) stack
  | .opening kind => .pending (.bracket kind t [] :: stack)
  | .mark m => .pending (.mark m t :: stack)
  | .closing kind =>
      match stack with
      | .bracket kind' opener items :: rest =>
          if kind = kind' then
            match closeBracket kind opener items.reverse with
            | .ok f => supply f rest
            | .error e => .fail e
          else .fail (t.fault ("Unexpected " ++ t.kind.describe))
      | _ => .fail (t.fault ("Unexpected " ++ t.kind.describe))
  | .finish => .fail (unfinished stack)

/-- Reads one form, and answers with the tokens after it; after an error, with the tokens after the
    one that caused it. The end of the input is never passed. -/
def readForm (stack : List Pending) : List Token → Except Error Form × List Token
  | [] => (.error (unfinished stack), [])
  | t :: rest =>
      match readStep stack t with
      | .form f => (.ok f, rest)
      | .pending stack' => readForm stack' rest
      | .fail e =>
          match t.kind with
          | .finish => (.error e, t :: rest)
          | _ => (.error e, rest)

/-- Reads forms up to the end of the input; `done` holds those read so far, last first. -/
def readForms (done : List Form) (stack : List Pending) : List Token → Except Error (List Form)
  | [] => if stack.isEmpty then .ok done.reverse else .error (unfinished stack)
  | t :: rest =>
      match t.kind, stack with
      | .finish, [] => .ok done.reverse
      | _, _ =>
          match readStep stack t with
          | .form f => readForms (f :: done) [] rest
          | .pending stack' => readForms done stack' rest
          | .fail e => .error e

/-- All forms of a list of tokens. -/
def readAll (tokens : List Token) : Except Error (List Form) := readForms [] [] tokens

/-- All forms of a text. -/
def parse (source : String) : Except Error (List Form) := do readAll (← scan source)

/-- By how much the opening brackets outnumber the closing ones. -/
def bracketDepth (tokens : List Token) : Int :=
  tokens.foldl (fun depth t => match t.kind with
    | .opening _ => depth + 1
    | .closing _ => depth - 1
    | _ => depth) 0

/-- Whether a text still has open brackets, so that more lines should follow. A text that cannot be
    cut into tokens is left for the reader to report. -/
def isIncomplete (source : String) : Bool :=
  match scan source with
  | .ok tokens => 0 < bracketDepth tokens
  | .error _ => false

end PluginLisp
