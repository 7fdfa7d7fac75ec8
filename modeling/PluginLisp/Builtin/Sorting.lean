/-!
A stable merge sort whose comparison may fail or have effects. The comparison is asked whether the
element on the right has to come first; otherwise the left one does, so equal elements keep their
order.
-/

namespace PluginLisp

variable {m : Type → Type} [Monad m] {α : Type}

/-- Merges two sorted lists; `merged` holds what has been taken so far, last first. -/
def mergeInto (comesFirst : α → α → m Bool) (merged : List α) : List α → List α → m (List α)
  | [], right => pure (merged.reverse ++ right)
  | left, [] => pure (merged.reverse ++ left)
  | a :: left, b :: right => do
      if ← comesFirst b a then mergeInto comesFirst (b :: merged) (a :: left) right
      else mergeInto comesFirst (a :: merged) left (b :: right)
termination_by left right => left.length + right.length

/-- Sorts a list: its halves first, the shorter one in front, and then the two merged. -/
def mergeSortBy (comesFirst : α → α → m Bool) (items : List α) : m (List α) :=
  if items.length ≤ 1 then pure items
  else do
    let left ← mergeSortBy comesFirst (items.take (items.length / 2))
    let right ← mergeSortBy comesFirst (items.drop (items.length / 2))
    mergeInto comesFirst [] left right
termination_by items.length

end PluginLisp
