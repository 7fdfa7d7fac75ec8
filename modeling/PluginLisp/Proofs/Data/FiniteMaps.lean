import Mathlib.Data.Finmap
import PluginLisp.Builtin.Table
import PluginLisp.Proofs.Data.Entries
import PluginLisp.Proofs.Text.ByteOrder

/-!
Entries as finite maps. A finite map has the keys and values that look-ups find, in no order; entries
hold the same with each key once and in order. Setting keys, removing them and laying one map on
another one do to the entries what they do to the finite map.

Main results: `Represents.write`, `Represents.overlay`.
-/

namespace PluginLisp

/-- A finite map from texts to values. -/
abbrev FiniteMap := Finmap fun _ : String => Value

namespace FiniteMap

variable {m : FiniteMap} {key : String}

/-- The map with keys set from left to right. -/
def write (m : FiniteMap) (writes : List (String × Value)) : FiniteMap :=
  writes.foldl (fun m entry => m.insert entry.1 entry.2) m

/-- The map without some keys. -/
def without (m : FiniteMap) (keys : List String) : FiniteMap :=
  keys.foldl (fun m key => m.erase key) m

/-- The maps laid one on another, the last one on top. -/
def layered (maps : List FiniteMap) : FiniteMap := maps.foldl (fun below m => m ∪ below) ∅

/-- What is written for a key the last time. -/
def lastWrite? (key : String) (writes : List (String × Value)) : Option Value :=
  (writes.reverse.find? (·.1 == key)).map (·.2)

/-- The last write of a key wins. -/
theorem lookup_write (m : FiniteMap) (writes : List (String × Value)) (key : String) :
    (m.write writes).lookup key = (lastWrite? key writes).or (m.lookup key) := by
  induction writes using List.reverseRecOn with
  | nil => rfl
  | append_singleton writes entry ih =>
      obtain ⟨name, value⟩ := entry
      simp only [write, lastWrite?, List.foldl_append, List.foldl_cons, List.foldl_nil,
        List.reverse_append, List.reverse_singleton, List.singleton_append] at ih ⊢
      by_cases same : name = key
      · subst same
        simp [Finmap.lookup_insert]
      · rw [Finmap.lookup_insert_of_ne _ (Ne.symm same), ih, List.find?_cons_of_neg (by simpa using same)]

/-- The last write is among the later ones, if there is one there. -/
theorem lastWrite?_cons (key : String) (write : String × Value) (writes : List (String × Value)) :
    lastWrite? key (write :: writes) = (lastWrite? key writes).or
      (if write.1 = key then some write.2 else none) := by
  by_cases same : write.1 = key <;> simp [lastWrite?, List.find?_append, same]

/-- A write at the end is the last one for its key. -/
theorem lastWrite?_concat (key : String) (write : String × Value) (writes : List (String × Value)) :
    lastWrite? key (writes ++ [write]) =
      if write.1 = key then some write.2 else lastWrite? key writes := by
  by_cases same : write.1 = key <;> simp [lastWrite?, same]

/-- There is no last write for just the keys that are not written. -/
theorem lastWrite?_eq_none_iff {writes : List (String × Value)} :
    lastWrite? key writes = none ↔ key ∉ writes.map (·.1) := by
  simp only [lastWrite?, Option.map_eq_none_iff, List.find?_eq_none, List.mem_reverse, beq_iff_eq,
    List.mem_map, not_exists, not_and]

/-- The upper map hides the lower one. -/
theorem lookup_union (upper lower : FiniteMap) (key : String) :
    (upper ∪ lower).lookup key = (upper.lookup key).or (lower.lookup key) := by
  cases found : upper.lookup key with
  | none =>
      rw [Finmap.lookup_union_right (Finmap.lookup_eq_none.1 found)]
      rfl
  | some value =>
      rw [Finmap.lookup_union_left (Finmap.mem_of_lookup_eq_some found), found]
      rfl

end FiniteMap

namespace Assoc

section

variable {first second : Assoc Value}

/-- Entries laid over others hide those of the same names. -/
theorem get?_overlay (sorted : Sorted second) (key : String) :
    get? key (overlay first second) = (get? key second).or (get? key first) := by
  induction second generalizing first with
  | nil => rfl
  | cons entry rest ih =>
      obtain ⟨name, value⟩ := entry
      obtain ⟨least, sortedRest⟩ := List.pairwise_cons.1 sorted
      show get? key (overlay (Assoc.put name value first) rest) = _
      rw [ih sortedRest, get?_put, get?]
      by_cases same : name = key
      · subst same
        simp [get?_eq_none_of_lt least]
      · simp [same]

/-- Laying entries over sorted ones keeps them sorted. -/
theorem sorted_overlay (sorted : Sorted first) : Sorted (overlay first second) := by
  induction second generalizing first with
  | nil => exact sorted
  | cons entry rest ih => exact ih (sorted_put sorted entry.1 entry.2)

end

/-- Entries in order with the keys and values of a finite map. -/
structure Represents (entries : Assoc Value) (m : FiniteMap) : Prop where
  sorted : Sorted entries
  lookup : ∀ key, get? key entries = m.lookup key

namespace Represents

variable {entries first second : Assoc Value} {m m' : FiniteMap}

theorem empty : Represents [] ∅ := ⟨sorted_nil, fun _ => rfl⟩

/-- Putting an entry is inserting it. -/
theorem put (represents : Represents entries m) (key : String) (value : Value) :
    Represents (Assoc.put key value entries) (m.insert key value) where
  sorted := sorted_put represents.sorted key value
  lookup other := by
    rw [get?_put, represents.lookup]
    by_cases same : key = other
    · subst same
      rw [if_pos rfl, Finmap.lookup_insert]
    · rw [if_neg same, Finmap.lookup_insert_of_ne _ (Ne.symm same)]

/-- Laying writes over entries is making them one after the other. -/
theorem write (represents : Represents entries m) (writes : List (String × Value)) :
    Represents (Assoc.overlay entries writes) (m.write writes) := by
  induction writes generalizing entries m with
  | nil => exact represents
  | cons entry writes ih => exact ih (represents.put entry.1 entry.2)

/-- Removing an entry is erasing its key. -/
theorem remove (represents : Represents entries m) (key : String) :
    Represents (Assoc.remove key entries) (m.erase key) where
  sorted := sorted_remove represents.sorted key
  lookup other := by
    rw [represents.sorted.get?_remove, represents.lookup]
    by_cases same : key = other
    · subst same
      rw [if_pos rfl, Finmap.lookup_erase]
    · rw [if_neg same, Finmap.lookup_erase_ne (Ne.symm same)]

/-- Laying one table over another is the union with it. -/
theorem overlay (lower : Represents first m) (upper : Represents second m') :
    Represents (Assoc.overlay first second) (m' ∪ m) where
  sorted := sorted_overlay lower.sorted
  lookup key := by
    rw [get?_overlay upper.sorted, FiniteMap.lookup_union, lower.lookup, upper.lookup]

end Represents

theorem get?_overlay_nil (key : String) (writes : List (String × Value)) :
    get? key (overlay [] writes) = FiniteMap.lastWrite? key writes := by
  rw [(Represents.empty.write writes).lookup, FiniteMap.lookup_write]
  exact Option.or_none

end Assoc

end PluginLisp
