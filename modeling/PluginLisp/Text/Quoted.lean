import PluginLisp.Text.Hidden

/-!
Readable text: a text between double quotes, in which quote, backslash, line feed, carriage return,
tab and NUL have short escapes and every character that would not show on its own is written by its
code point. `quote` is what the printer of values and forms uses; `quoteChar` is its counterpart for
one character between single quotes.
-/

namespace PluginLisp.Text

/-- Characters that show on their own. The visible half of ASCII needs no table. -/
def isShown (c : Char) : Bool :=
  let n := c.toNat
  if n < 0x7f then 0x20 ≤ n else !hidden.contains c

/-- The short escapes, which are the same between either kind of quotes. -/
def shortEscape? : Char → Option (List Char)
  | '\n' => some ['\x5c', 'n']
  | '\r' => some ['\x5c', 'r']
  | '\t' => some ['\x5c', 't']
  | '\x5c' => some ['\x5c', '\x5c']
  | '\x00' => some ['\x5c', '0']
  | _ => none

/-- A code point written out: a backslash, `u`, and the lowercase hexadecimal digits in braces. -/
def codeEscape (c : Char) : List Char :=
  ['\x5c', 'u', '\x7b'] ++ Nat.toDigits 16 c.toNat ++ ['\x7d']

/-- One character of a text between quotes of the given kind. -/
def escape (mark : Char) (c : Char) : List Char :=
  if c = mark then ['\x5c', c]
  else match shortEscape? c with
    | some short => short
    | none => if isShown c then [c] else codeEscape c

/-- A text between double quotes. -/
def quote (s : String) : String :=
  String.ofList ('\x22' :: (s.toList.flatMap (escape '\x22') ++ ['\x22']))

/-- A character between single quotes. -/
def quoteChar (c : Char) : String :=
  String.ofList ('\x27' :: (escape '\x27' c ++ ['\x27']))

end PluginLisp.Text
