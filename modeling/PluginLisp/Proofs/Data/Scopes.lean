import PluginLisp.Machine.Scope
import Mathlib.Data.List.Basic
import Mathlib.Logic.Relation

/-!
The scopes around a scope. Each scope has been made after the one around it, so going outward comes to
an end, and a search asks the scopes it meets one after another.

Main results: `Scopes.Chain.searchFrom_eq`, `Scopes.Ordered.search_eq`.
-/

namespace PluginLisp

namespace Scopes

/-- The number of the scope around a scope. -/
def parent? (scopes : Scopes) (i : Nat) : Option Nat := (scopes.at? i).bind Scope.parent

/-- A scope and the one directly around it. -/
def Inside (scopes : Scopes) (i p : Nat) : Prop := scopes.parent? i = some p

/-- The scopes met from scope `i` outward, itself first. -/
inductive Chain (scopes : Scopes) : Nat → List Nat → Prop where
  | outermost {i} (alone : scopes.parent? i = none) : Chain scopes i [i]
  | inside {i p outward} (inner : scopes.Inside i p) (outer : Chain scopes p outward) :
      Chain scopes i (i :: outward)

/-- Every scope has been made after the one around it. -/
def Ordered (scopes : Scopes) : Prop := ∀ i p, scopes.Inside i p → p < i

/-- From scope `i` the loops outward come to an end along the chain: the depth is the number of turns
    from scope to scope, and any number of turns beyond those that the chain has changes no answer. -/
structure ComesToEnd (scopes : Scopes) (i : Nat) (chain : List Nat) : Prop where
  outward : scopes.Chain i chain
  depth : scopes.depth i + 1 = chain.length
  depth_turns : ∀ turns, chain.length ≤ turns → scopes.depthFrom turns i = scopes.depth i
  search_turns : ∀ {α : Type} (look : Scope → Option α) (turns : Nat), chain.length ≤ turns →
    searchFrom look scopes turns i = scopes.search i look

variable {scopes : Scopes} {i p : Nat} {chain : List Nat}

/-- A new scope is the last one, and the others stay. -/
theorem at?_add {parent : Option Nat} :
    (scopes.add parent).at? i = if i = scopes.size then some { parent } else scopes.at? i :=
  Array.getElem?_push

/-- Changing a scope changes no other. -/
theorem at?_modify {f : Scope → Scope} {j : Nat} :
    at? (scopes.modify i f) j = if i = j then (scopes.at? j).map f else scopes.at? j :=
  Array.getElem?_modify

/-- A new scope has the parent it is made with. -/
theorem parent?_add {parent : Option Nat} :
    (scopes.add parent).parent? i = if i = scopes.size then parent else scopes.parent? i := by
  rw [parent?, at?_add]
  split <;> rfl

/-- A change of a scope that keeps its parent. -/
theorem parent?_modify {f : Scope → Scope} (keeps : ∀ scope, (f scope).parent = scope.parent) {j : Nat} :
    parent? (scopes.modify i f) j = scopes.parent? j := by
  rw [parent?, at?_modify]
  split
  · cases found : scopes.at? j <;> simp [parent?, found, keeps]
  · rfl

/-- A scope has one chain. -/
theorem Chain.unique {other : List Nat} (c : scopes.Chain i chain) (d : scopes.Chain i other) :
    chain = other := by
  induction c generalizing other with
  | outermost alone =>
      cases d with
      | outermost => rfl
      | inside inner =>
          rw [Inside, alone] at inner
          cases inner
  | inside inner _ ih =>
      cases d with
      | outermost alone =>
          rw [Inside, alone] at inner
          cases inner
      | inside inner' outer' =>
          cases inner.symm.trans inner'
          rw [ih outer']

/-- A new scope comes after its parent. -/
theorem Ordered.add {parent : Option Nat} (ordered : scopes.Ordered)
    (exists_parent : ∀ p, parent = some p → p < scopes.size) : (scopes.add parent).Ordered := by
  intro i p inner
  rw [Inside, parent?_add] at inner
  split at inner
  · next new => exact new ▸ exists_parent p inner
  · exact ordered i p inner

/-- Changing scopes without moving them keeps their order. -/
theorem Ordered.modify {f : Scope → Scope} (ordered : scopes.Ordered)
    (keeps : ∀ scope, (f scope).parent = scope.parent) : Ordered (scopes.modify i f) := by
  intro j p inner
  rw [Inside, parent?_modify keeps] at inner
  exact ordered j p inner

/-- Chains end in scopes with nothing around them, so they are as finite as the numbers below one. -/
theorem Ordered.exists_chain (ordered : scopes.Ordered) (i : Nat) :
    ∃ chain, scopes.Chain i chain ∧ chain.length ≤ i + 1 := by
  induction i using Nat.strongRecOn with
  | _ i ih =>
      cases around : scopes.parent? i with
      | none => exact ⟨[i], .outermost around, by simp⟩
      | some p =>
          obtain ⟨outward, outer, short⟩ := ih p (ordered i p around)
          refine ⟨i :: outward, .inside around outer, ?_⟩
          have := ordered i p around
          simp only [List.length_cons]
          omega

/-- A chain is no longer than the number of scopes before it allows. -/
theorem Ordered.length_le (ordered : scopes.Ordered) (c : scopes.Chain i chain) :
    chain.length ≤ i + 1 := by
  obtain ⟨other, c', short⟩ := ordered.exists_chain i
  rwa [c.unique c']

/-- Nothing in the chain of a scope comes after the scope. -/
theorem Ordered.mem_le (ordered : scopes.Ordered) (c : scopes.Chain i chain) :
    ∀ s ∈ chain, s ≤ i := by
  induction c with
  | outermost => simp
  | inside inner outer ih =>
      intro s member
      rcases List.mem_cons.1 member with rfl | further
      · exact Nat.le_refl _
      · exact Nat.le_trans (ih s further) (Nat.le_of_lt (ordered _ _ inner))

/-- No scope is inside itself. -/
theorem Ordered.acyclic (ordered : scopes.Ordered) : ¬ Relation.TransGen scopes.Inside i i := by
  have decreasing : ∀ j, Relation.TransGen scopes.Inside i j → j < i := by
    intro j outward
    induction outward with
    | single inner => exact ordered _ _ inner
    | tail _ inner ih => exact Nat.lt_trans (ordered _ _ inner) ih
  exact fun cycle => Nat.lt_irrefl i (decreasing i cycle)

/-- The search asks the scopes of the chain one after another. -/
theorem Chain.searchFrom_eq {α : Type} {look : Scope → Option α} {turns : Nat}
    (c : scopes.Chain i chain) (enough : chain.length ≤ turns) :
    searchFrom look scopes turns i = chain.findSome? fun s => (scopes.at? s).bind look := by
  induction c generalizing turns with
  | outermost alone =>
      obtain ⟨turns, rfl⟩ := Nat.exists_eq_succ_of_ne_zero (Nat.ne_of_gt enough)
      unfold parent? at alone
      rw [searchFrom]
      grind
  | inside inner outer ih =>
      obtain ⟨turns, rfl⟩ := Nat.exists_eq_succ_of_ne_zero (Nat.ne_of_gt (Nat.zero_lt_of_lt enough))
      have further := ih (Nat.le_of_succ_le_succ enough)
      unfold Inside parent? at inner
      rw [searchFrom, List.findSome?_cons, ← further]
      grind

/-- The depth of a scope is the length of its chain but one. -/
theorem Chain.depthFrom_eq {turns : Nat} (c : scopes.Chain i chain) (enough : chain.length ≤ turns) :
    scopes.depthFrom turns i + 1 = chain.length := by
  induction c generalizing turns with
  | outermost alone =>
      obtain ⟨turns, rfl⟩ := Nat.exists_eq_succ_of_ne_zero (Nat.ne_of_gt enough)
      unfold parent? at alone
      simp [depthFrom, alone]
  | inside inner outer ih =>
      obtain ⟨turns, rfl⟩ := Nat.exists_eq_succ_of_ne_zero (Nat.ne_of_gt (Nat.zero_lt_of_lt enough))
      have further := ih (Nat.le_of_succ_le_succ enough)
      unfold Inside parent? at inner
      simp [depthFrom, inner, further]

/-- A search finds the first match along the chain. -/
theorem Ordered.search_eq {α : Type} {look : Scope → Option α} (ordered : scopes.Ordered)
    (c : scopes.Chain i chain) :
    scopes.search i look = chain.findSome? fun s => (scopes.at? s).bind look :=
  c.searchFrom_eq (ordered.length_le c)

/-- From every scope the parents come to an end. -/
theorem Ordered.comesToEnd (ordered : scopes.Ordered) (i : Nat) :
    ∃ chain, scopes.ComesToEnd i chain := by
  obtain ⟨chain, c, short⟩ := ordered.exists_chain i
  have depth : scopes.depth i + 1 = chain.length := c.depthFrom_eq short
  refine ⟨chain, c, depth, fun turns enough => ?_, fun look turns enough => ?_⟩
  · have := c.depthFrom_eq enough
    omega
  · rw [c.searchFrom_eq enough, ordered.search_eq c]

/-- A chain stays a chain as long as the scopes on it keep their parents. -/
theorem Chain.of_parents {later : Scopes} (c : scopes.Chain i chain)
    (same : ∀ s ∈ chain, later.parent? s = scopes.parent? s) : later.Chain i chain := by
  induction c with
  | outermost alone => exact .outermost ((same _ List.mem_cons_self).trans alone)
  | inside inner outer ih =>
      exact .inside ((same _ List.mem_cons_self).trans inner)
        (ih fun s member => same s (List.mem_cons_of_mem _ member))

end Scopes

end PluginLisp
