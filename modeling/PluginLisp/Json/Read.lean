import PluginLisp.Assoc
import PluginLisp.Json.Basic
import PluginLisp.Number.Reading

/-!
Reading a JSON document from text. Arrays and objects may nest 127 deep. A number without fraction and
exponent is an integer if a word of sixty-four bits holds it, signed or not. Any other one is a float,
read from as many of its digits as fit sixty-four bits and scaled by one multiplication or division, so
its last digit may be off; a number too large for a float is refused.
-/

namespace PluginLisp.Json

/-- The deepest level that is refused. -/
def depthLimit : Nat := 128

/-- White space between the parts of a document. -/
def isSpace (c : Char) : Bool := c == ' ' || c == '\n' || c == '\t' || c == '\r'

/-- Whether another digit still fits a significand of sixty-four bits. -/
def digitFits (significand digit : Nat) : Bool := significand * 10 + digit < Number.twoPow 64

/-- Adds digits to a significand as long as they fit: the significand, how many were added, and how
    many were left over. -/
def addDigits (significand added : Nat) : List Char → Nat × Nat × Nat
  | [] => (significand, added, 0)
  | c :: rest =>
      let digit := c.toNat - 48
      if digitFits significand digit then
        addDigits (significand * 10 + digit) (added + 1) rest
      else (significand, added, rest.length + 1)

/-- Scales a float by a power of ten. A power below the table is split, one beyond it is refused
    unless the float is zero; `steps` bounds the splitting, which ends when nothing is left. -/
def scaleFloat? : (steps : Nat) → Float → Int → Option Float
  | 0, x, _ => some x
  | steps + 1, x, e =>
      if e.natAbs ≤ 308 then
        if 0 ≤ e then
          let y := x * Number.ofDecimal false 1 e
          if Number.isFinite y then some y else none
        else some (x / Number.ofDecimal false 1 e.natAbs)
      else if x == 0.0 then some x
      else if 0 ≤ e then none
      else scaleFloat? steps (x / 1e308) (e + 308)

/-- The exponent part of a number: its value and the rest of the text. -/
def readExponent? (cs : List Char) : Option (Int × List Char) :=
  let (negative, body) := Number.splitSign cs
  let digits := body.takeWhile Number.isDigit
  if digits.isEmpty then none
  else
    let n : Int := Number.digitsValue digits
    some (if negative then -n else n, body.dropWhile Number.isDigit)

/-- The fraction of a number, which may be missing, and the rest of the text. -/
def readFraction? : List Char → Option (List Char × List Char)
  | '.' :: more =>
      let digits := more.takeWhile Number.isDigit
      if digits.isEmpty then none else some (digits, more.dropWhile Number.isDigit)
  | rest => some ([], rest)

/-- The exponent of a number, which may be missing, and the rest of the text. -/
def readScale? : List Char → Option (Int × List Char)
  | 'e' :: more => readExponent? more
  | 'E' :: more => readExponent? more
  | rest => some (0, rest)

/-- Whether a fraction or an exponent follows the digits of a number. -/
def goesOn (rest : List Char) : Bool :=
  match rest with
  | c :: _ => c == '.' || c == 'e' || c == 'E'
  | [] => false

/-- Whether a significand of sixty-four bits is an integer with the sign. Zero with a sign is none. -/
def isWhole (negative : Bool) (significand : Nat) : Bool :=
  !negative || (0 < significand && significand ≤ Number.twoPow 63)

/-- Reads a number after its sign. -/
def readNumber? (negative : Bool) (cs : List Char) : Option (Json × List Char) := do
  let whole := cs.takeWhile Number.isDigit
  let rest := cs.dropWhile Number.isDigit
  if whole.isEmpty || (whole.head? == some '0' && 1 < whole.length) then none
  else
    let (significand, _, extra) := addDigits 0 0 whole
    if extra == 0 && !goesOn rest && isWhole negative significand then
      return (.integer (if negative then -significand else significand), rest)
    else
      let (fraction, rest) ← readFraction? rest
      let (significand, added, _) := addDigits significand 0 fraction
      let (exponent, rest) ← readScale? rest
      let x ← scaleFloat? 8 (Number.ofNat significand) ((extra : Int) - added + exponent)
      return (.float (if negative then -x else x), rest)

/-- Four hexadecimal digits. -/
def readUnit? : List Char → Option (Nat × List Char)
  | a :: b :: c :: d :: rest => do
      let digits ← [a, b, c, d].mapM fun ch =>
        let n := ch.toNat
        if 48 ≤ n ∧ n ≤ 57 then some (n - 48)
        else if 97 ≤ n ∧ n ≤ 102 then some (n - 87)
        else if 65 ≤ n ∧ n ≤ 70 then some (n - 55)
        else none
      return (digits.foldl (fun n digit => 16 * n + digit) 0, rest)
  | _ => none

/-- A character written by its code, with a second code after the first half of a pair. -/
def readCode? (cs : List Char) : Option (Char × List Char) := do
  let (unit, rest) ← readUnit? cs
  if 0xdc00 ≤ unit ∧ unit ≤ 0xdfff then none
  else if 0xd800 ≤ unit ∧ unit ≤ 0xdbff then
    match rest with
    | '\x5c' :: 'u' :: more => do
        let (low, rest) ← readUnit? more
        if 0xdc00 ≤ low ∧ low ≤ 0xdfff then
          some (Char.ofNat (0x10000 + (unit - 0xd800) * 0x400 + (low - 0xdc00)), rest)
        else none
    | _ => none
  else some (Char.ofNat unit, rest)

/-- What a letter after a backslash stands for. -/
def shortEscape? : Char → Option Char
  | '\x22' => some '\x22'
  | '\x5c' => some '\x5c'
  | '/' => some '/'
  | 'b' => some '\x08'
  | 'f' => some '\x0c'
  | 'n' => some '\n'
  | 'r' => some '\r'
  | 't' => some '\t'
  | _ => none

/-- Reads a text after its opening quote; `content` holds the characters so far, last first, and
    `steps` bounds their number. -/
def readText? : (steps : Nat) → (content : List Char) → List Char → Option (String × List Char)
  | 0, _, _ => none
  | steps + 1, content, cs =>
      match cs with
      | [] => none
      | '\x22' :: rest => some (String.ofList content.reverse, rest)
      | '\x5c' :: 'u' :: rest => do
          let (c, rest) ← readCode? rest
          readText? steps (c :: content) rest
      | '\x5c' :: e :: rest => do readText? steps ((← shortEscape? e) :: content) rest
      | c :: rest => if c.toNat < 0x20 then none else readText? steps (c :: content) rest

/-- Expects the letters of a word. -/
def readWord? (word : List Char) (result : Json) (cs : List Char) : Option (Json × List Char) :=
  if word.isPrefixOf cs then some (result, cs.drop word.length) else none

mutual

/-- Reads a document that stands inside `depth` arrays and objects. Every call takes one of the
    `steps`, of which there are enough if there are two for each character. -/
def readValue? : (steps depth : Nat) → List Char → Option (Json × List Char)
  | 0, _, _ => none
  | steps + 1, depth, cs =>
      match cs.dropWhile isSpace with
      | 'n' :: rest => readWord? "ull".toList .null rest
      | 't' :: rest => readWord? "rue".toList (.boolean true) rest
      | 'f' :: rest => readWord? "alse".toList (.boolean false) rest
      | '-' :: rest => readNumber? true rest
      | '\x22' :: rest => do
          let (s, rest) ← readText? (rest.length + 1) [] rest
          return (.text s, rest)
      | '[' :: rest =>
          if depthLimit ≤ depth + 1 then none
          else match rest.dropWhile isSpace with
            | ']' :: rest => some (.array [], rest)
            | rest => readItems? steps (depth + 1) [] rest
      | '\x7b' :: rest =>
          if depthLimit ≤ depth + 1 then none
          else match rest.dropWhile isSpace with
            | '\x7d' :: rest => some (.object [], rest)
            | rest => readMembers? steps (depth + 1) [] rest
      | rest => readNumber? false rest

/-- Reads the items of an array, at least one; `items` holds those so far, last first. -/
def readItems? : (steps depth : Nat) → (items : List Json) → List Char →
    Option (Json × List Char)
  | 0, _, _, _ => none
  | steps + 1, depth, items, cs => do
      let (item, rest) ← readValue? steps depth cs
      match rest.dropWhile isSpace with
      | ',' :: rest => readItems? steps depth (item :: items) rest
      | ']' :: rest => return (.array (item :: items).reverse, rest)
      | _ => none

/-- Reads the members of an object, at least one; of several members with the same name the last
    one counts. -/
def readMembers? : (steps depth : Nat) → (members : Assoc Json) → List Char →
    Option (Json × List Char)
  | 0, _, _, _ => none
  | steps + 1, depth, members, cs =>
      match cs.dropWhile isSpace with
      | '\x22' :: rest => do
          let (name, rest) ← readText? (rest.length + 1) [] rest
          match rest.dropWhile isSpace with
          | ':' :: rest => do
              let (value, rest) ← readValue? steps depth rest
              match rest.dropWhile isSpace with
              | ',' :: rest => readMembers? steps depth (members.put name value) rest
              | '\x7d' :: rest => return (.object (members.put name value), rest)
              | _ => none
          | _ => none
      | _ => none

end

/-- Reads a whole text as one document. -/
def read? (s : String) : Option Json := do
  let cs := s.toList
  let (j, rest) ← readValue? (2 * cs.length + 2) 0 cs
  if rest.all isSpace then return j else none

end PluginLisp.Json
