import PluginLisp.Error
import PluginLisp.Number.Power

/-!
Arithmetic on words with a check. Where the exact result does not fit the word, the program breaks off
with a text that names the operation.
-/

namespace PluginLisp.Number

/-- The end of a program in which an operation overflows. -/
def overflowError (operation : String) : Error := .panic ("attempt to " ++ operation ++ " with overflow")

/-- The sum of two words of thirty-two bits. -/
def addUInt32 (a b : UInt32) : Except Error UInt32 :=
  if a.toNat + b.toNat < twoPow 32 then .ok (a + b) else .error (overflowError "add")

/-- The product of two words of thirty-two bits. -/
def mulUInt32 (a b : UInt32) : Except Error UInt32 :=
  if a.toNat * b.toNat < twoPow 32 then .ok (a * b) else .error (overflowError "multiply")

/-- The sum of two words of sixty-four bits. -/
def addUInt64 (a b : UInt64) : Except Error UInt64 :=
  if a.toNat + b.toNat < twoPow 64 then .ok (a + b) else .error (overflowError "add")

/-- The sum of two signed words of sixty-four bits. -/
def addInt64 (a b : Int64) : Except Error Int64 :=
  if fitsWord (a.toInt + b.toInt) then .ok (a + b) else .error (overflowError "add")

/-- The difference of two integers that signed words of sixty-four bits hold. -/
def subWord (a b : Int) : Except Error Int :=
  if fitsWord (a - b) then .ok (a - b) else .error (overflowError "subtract")

end PluginLisp.Number
