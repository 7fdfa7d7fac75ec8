import PluginLisp.Encoding.Bytes

/-!
Base64 with the standard alphabet: three bytes to four letters, padded with equals signs. Reading is
strict: the padding has to be there, and the bits that no byte uses have to be zero.
-/

namespace PluginLisp.Encoding.Base64

/-- The letter for six bits. -/
def letter (n : Nat) : Char :=
  if n < 26 then Char.ofNat (65 + n)
  else if n < 52 then Char.ofNat (71 + n)
  else if n < 62 then Char.ofNat (n - 4)
  else if n = 62 then '+'
  else '/'

/-- The letters of bytes. -/
def encodeBytes : List UInt8 → List Char
  | a :: b :: c :: rest =>
      let n := a.toNat * 65536 + b.toNat * 256 + c.toNat
      letter (n / 262144) :: letter (n / 4096 % 64) :: letter (n / 64 % 64) :: letter (n % 64)
        :: encodeBytes rest
  | [a, b] =>
      let n := a.toNat * 256 + b.toNat
      [letter (n / 1024), letter (n / 16 % 64), letter (n % 16 * 4), '=']
  | [a] => [letter (a.toNat / 4), letter (a.toNat % 4 * 16), '=', '=']
  | [] => []

/-- The base64 text of bytes. -/
def encode (bytes : List UInt8) : String := String.ofList (encodeBytes bytes)

/-- The six bits of a letter. -/
def letterValue? (c : Char) : Option Nat :=
  let n := c.toNat
  if 65 ≤ n ∧ n ≤ 90 then some (n - 65)
  else if 97 ≤ n ∧ n ≤ 122 then some (n - 71)
  else if 48 ≤ n ∧ n ≤ 57 then some (n + 4)
  else if c = '+' then some 62
  else if c = '/' then some 63
  else none

/-- The bytes of a last group, which may be padded. -/
def decodeLast? (a b c d : Char) : Option (List UInt8) := do
  let x ← letterValue? a
  let y ← letterValue? b
  if c = '=' then
    if d = '=' ∧ y % 16 = 0 then some [(x * 4 + y / 16).toUInt8] else none
  else
    let z ← letterValue? c
    if d = '=' then
      if z % 4 = 0 then some [(x * 4 + y / 16).toUInt8, (y % 16 * 16 + z / 4).toUInt8] else none
    else
      let w ← letterValue? d
      some [(x * 4 + y / 16).toUInt8, (y % 16 * 16 + z / 4).toUInt8, (z % 4 * 64 + w).toUInt8]

/-- Reads groups of four letters; only the last may be padded. -/
def decode? : List Char → Option (List UInt8)
  | [] => some []
  | [a, b, c, d] => decodeLast? a b c d
  | a :: b :: c :: d :: rest => do
      if d = '=' then none
      else
        let bytes ← decodeLast? a b c d
        return bytes ++ (← decode? rest)
  | _ => none

end PluginLisp.Encoding.Base64
