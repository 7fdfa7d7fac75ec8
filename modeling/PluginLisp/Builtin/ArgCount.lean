import PluginLisp.Error

/-!
How many arguments a builtin takes. The number is checked before any argument is evaluated.
-/

namespace PluginLisp

/-- The numbers of arguments that a builtin takes. -/
inductive ArgCount where
  | exactly (n : Nat)
  | between (low high : Nat)
  | atLeast (n : Nat)
  | any
deriving DecidableEq, Repr, Inhabited

namespace ArgCount

/-- Whether a number of arguments is allowed. -/
def allows : ArgCount → Nat → Bool
  | exactly n, got => got == n
  | between low high, got => low ≤ got && got ≤ high
  | atLeast n, got => n ≤ got
  | any, _ => true

/-- The allowed numbers in words. -/
def describe : ArgCount → String
  | exactly n => toString n
  | between low high => toString low ++ " to " ++ toString high
  | atLeast n => "at least " ++ toString n
  | any => "any"

/-- Fails unless the number of arguments is allowed. -/
def check (name : String) (count : ArgCount) (got : Nat) : Except Error Unit :=
  if count.allows got then .ok () else .error (.arity name count.describe got)

end ArgCount

end PluginLisp
