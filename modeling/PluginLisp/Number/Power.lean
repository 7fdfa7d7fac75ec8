/-!
Powers of two and of ten, and the bound of signed words. They are the only powers that numbers and
their texts need.
-/

namespace PluginLisp.Number

/-- Two to the power `n`. -/
def twoPow (n : Nat) : Nat := Nat.pow 2 n

/-- Ten to the power `n`. -/
def tenPow (n : Nat) : Nat := Nat.pow 10 n

/-- The least integer that is too large for a signed word of sixty-four bits; its negation is the
    least one that is not too small. -/
def wordBound : Int := twoPow 63

/-- Whether a signed word of sixty-four bits can hold an integer. -/
def fitsWord (n : Int) : Bool := -wordBound ≤ n && n < wordBound

end PluginLisp.Number
