import PluginLisp.Encoding.Bytes
import PluginLisp.Text.Quoted

/-!
Hexadecimal: two digits to a byte. Writing uses lowercase digits, reading accepts both cases.
-/

namespace PluginLisp.Encoding.Hex

/-- The two digits of a byte. -/
def encodeByte (b : UInt8) : List Char :=
  [Nat.digitChar (b.toNat / 16), Nat.digitChar (b.toNat % 16)]

/-- The digits of bytes. -/
def encode (bytes : List UInt8) : String := String.ofList (bytes.flatMap encodeByte)

/-- Why digits could not be read. -/
inductive Fault where
  | oddLength
  /-- The byte at the given position is no digit. -/
  | notDigit (byte : UInt8) (position : Nat)

/-- The text of a fault; a byte is shown as the character with its number. -/
def Fault.message : Fault → String
  | oddLength => "Odd number of digits"
  | notDigit byte position =>
      "Invalid character " ++ Text.quoteChar (Char.ofNat byte.toNat) ++ " at position "
        ++ toString position

/-- The value of a digit. -/
def digitValue? (b : UInt8) : Option UInt8 :=
  if 48 ≤ b && b ≤ 57 then some (b - 48)
  else if 97 ≤ b && b ≤ 102 then some (b - 87)
  else if 65 ≤ b && b ≤ 70 then some (b - 55)
  else none

/-- Reads pairs of digits, the first of which stands at `position`. -/
def decodeFrom (position : Nat) : List UInt8 → Except Fault (List UInt8)
  | high :: low :: rest =>
      match digitValue? high, digitValue? low with
      | some h, some l => (decodeFrom (position + 2) rest).map ((16 * h + l) :: ·)
      | none, _ => .error (.notDigit high position)
      | _, none => .error (.notDigit low (position + 1))
  | _ => .ok []

/-- Reads digits; their number is looked at first. -/
def decode (digits : List UInt8) : Except Fault (List UInt8) :=
  if digits.length % 2 = 0 then decodeFrom 0 digits else .error .oddLength

end PluginLisp.Encoding.Hex
