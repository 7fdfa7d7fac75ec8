import Mathlib.Data.UInt
import PluginLisp.Evaluator.Primitives
import PluginLisp.Interpreter
import PluginLisp.Proofs.Machine.Running
import PluginLisp.Proofs.Number.Digits

/-!
Fresh symbols. The name of a generated symbol is any text that the caller gives, two underscores and
the number of a counter, which the evaluators of an interpreter and its threads share. The text may
end in digits or underscores, or be such a name itself; still a name tells its number, since its last
digits can only be those of the number. The counter has a word of sixty-four bits, so all names differ
until it has gone round once.

Main results: `History.numbered`, `fresh_symbols_differ`.
-/

namespace PluginLisp

open Machine

namespace FreshSymbols

/-! ### Names -/

/-- The name that a text and a number make. -/
def freshName (stem : String) (n : Nat) : String := stem ++ "__" ++ toString n

theorem toList_freshName (stem : String) (n : Nat) :
    (freshName stem n).toList = stem.toList ++ ['_', '_'] ++ Nat.toDigits 10 n := by
  simp [freshName]

/-- Read from its end, a name has the digits of its number up to the first underscore, and then the text
    that it was made from. -/
theorem split_freshName (stem : String) (n : Nat) :
    (freshName stem n).toList.reverse.takeWhile Number.isDigit = (Nat.toDigits 10 n).reverse ∧
      (freshName stem n).toList.reverse.dropWhile Number.isDigit =
        '_' :: '_' :: stem.toList.reverse := by
  have reversed : (freshName stem n).toList.reverse =
      (Nat.toDigits 10 n).reverse ++ '_' :: '_' :: stem.toList.reverse := by
    simp [toList_freshName]
  rw [reversed]
  apply Number.splitWhile
  · exact fun c member => Number.isDigit_of_mem_toDigits (List.mem_reverse.1 member)
  · simp [Number.isDigit]

/-- A name tells the text and the number that it was made from. -/
theorem freshName_inj {stem stem' : String} {m n : Nat} :
    freshName stem m = freshName stem' n ↔ stem = stem' ∧ m = n := by
  constructor
  · intro same
    obtain ⟨digits, front⟩ := split_freshName stem m
    obtain ⟨digits', front'⟩ := split_freshName stem' n
    rw [same] at digits front
    have sameDigits := List.reverse_inj.1 (digits.symm.trans digits')
    have sameFront : stem.toList.reverse = stem'.toList.reverse := by
      simpa using front.symm.trans front'
    refine ⟨String.toList_inj.1 (List.reverse_inj.1 sameFront), ?_⟩
    calc m = Number.digitsValue (Nat.toDigits 10 m) := (Number.digitsValue_toDigits m).symm
      _ = Number.digitsValue (Nat.toDigits 10 n) := congrArg _ sameDigits
      _ = n := Number.digitsValue_toDigits n
  · rintro ⟨rfl, rfl⟩
    rfl

/-! ### Calls -/

/-- A call for a fresh symbol, and the evaluator that makes it. -/
structure Call where
  evaluator : Evaluator
  args : List Value
  scope : Nat

namespace Call

/-- The computation of a call. -/
def run (call : Call) : Machine Value :=
  call.evaluator.runPrimitive (.general .freshSymbol) call.args call.scope

/-- The counter that a call takes its number from. -/
def counter (call : Call) : Nat := call.evaluator.settings.counter

/-- The text that a call puts in front of its number. -/
def stem (call : Call) (s : State) : String :=
  match call.args with
  | [] => "G"
  | v :: _ => v.display s.cells

/-- Every call takes the next number of its counter. -/
theorem run_eq (call : Call) (s : State) :
    call.run s = .done
      (.ok (.symbol (freshName (call.stem s) (s.counters.getD call.counter 0).toNat)))
      { s with counters := s.counters.modify call.counter (· + 1) } := by
  obtain ⟨ev, args, scope⟩ := call
  cases args <;> rfl

end Call

/-- What can come about around counter `k` from a state on: the names that calls have got from it so
    far, in order, and the state that there is then. The calls may be made by any number of evaluators
    that share the counter. -/
inductive History (k : Nat) (start : State) : List String → State → Prop where
  | start : History k start [] start
  | call {names : List String} {name : String} {s t : State} (before : History k start names s)
      (call : Call) (counter : call.counter = k)
      (run : call.run s = .done (.ok (.symbol name)) t) : History k start (names ++ [name]) t
  /-- Anything happens that does not touch the counter. -/
  | elsewhere {names : List String} {s t : State} (before : History k start names s)
      (same : t.counters[k]? = s.counters[k]?) : History k start names t

/-! ### Numbers -/

/-- The names have the numbers from `first` on, and the counter has the next one. -/
structure Numbered (k : Nat) (first : UInt64) (names : List String) (s : State) : Prop where
  next : s.counters[k]? = some (first + .ofNat names.length)
  named : ∀ i name, names[i]? = some name → ∃ stem, name = freshName stem (first + .ofNat i).toNat

namespace Numbered

variable {k : Nat} {first : UInt64} {names : List String} {name : String} {s t : State}

/-- A call takes the next number, and the counter goes on to the one after it. -/
theorem call {call : Call} (numbered : Numbered k first names s) (counter : call.counter = k)
    (run : call.run s = .done (.ok (.symbol name)) t) : Numbered k first (names ++ [name]) t := by
  subst counter
  have number : s.counters.getD call.counter 0 = first + .ofNat names.length := by
    rw [Array.getD_eq_getD_getElem?, numbered.next, Option.getD_some]
  rw [call.run_eq, number] at run
  cases run
  constructor
  case next =>
      rw [Array.getElem?_modify, if_pos rfl, numbered.next, Option.map_some, List.length_append,
        List.length_singleton, UInt64.ofNat_add, UInt64.add_assoc]
      rfl
  case named =>
      intro i name found
      rw [List.getElem?_append] at found
      split at found
      next => exact numbered.named i name found
      next outside =>
        rw [List.getElem?_singleton] at found
        split at found
        next last =>
          cases found
          obtain rfl : i = names.length := by omega
          exact ⟨_, rfl⟩
        next => cases found

theorem elsewhere (numbered : Numbered k first names s) (same : t.counters[k]? = s.counters[k]?) :
    Numbered k first names t :=
  ⟨same.trans numbered.next, numbered.named⟩

/-- Until the counter has gone round, all numbers differ. -/
theorem nodup (numbered : Numbered k first names s) (few : names.length < 2 ^ 64) : names.Nodup := by
  rw [List.nodup_iff_getElem?_ne_getElem?]
  intro i j before inside same
  have found := List.getElem?_eq_getElem inside
  obtain ⟨stem, named⟩ := numbered.named i _ (same.trans found)
  obtain ⟨stem', named'⟩ := numbered.named j _ found
  have numbers := (freshName_inj.1 (named.symm.trans named')).2
  -- both places are within one round of the counter, so its words tell them apart
  have words : UInt64.ofNat i = UInt64.ofNat j := add_left_cancel (UInt64.toNat_inj.1 numbers)
  have indices : i = j :=
    calc i = (UInt64.ofNat i).toNat :=
          (UInt64.toNat_ofNat_of_lt (before.trans (inside.trans few))).symm
      _ = (UInt64.ofNat j).toNat := congrArg UInt64.toNat words
      _ = j := UInt64.toNat_ofNat_of_lt (inside.trans few)
  exact before.ne indices

end Numbered

/-- Whatever comes about around a counter, its numbers are given out in order. -/
theorem History.numbered {k : Nat} {start s : State} {first : UInt64} {names : List String}
    (there : start.counters[k]? = some first) (history : History k start names s) :
    Numbered k first names s := by
  induction history with
  | start => exact ⟨by simpa using there, by simp⟩
  | call _ _ counter run ih => exact ih.call counter run
  | elsewhere _ same ih => exact ih.elsewhere same

/-- A new interpreter has a counter. -/
theorem counter_ofManager (manager : Manager) (traced : Bool) (libraries : Libraries) (w : World) :
    (Interpreter.ofManager manager traced libraries w).1.counter <
      (Interpreter.ofManager manager traced libraries w).2.state.counters.size := by
  show w.state.counters.size < (w.state.counters.push 0).size
  rw [Array.size_push]
  exact Nat.lt_succ_self _

/-- A call with a text to be put in front, by an evaluator with counter `0`. -/
def stemmed (calls : CallPolicy) (steps : Nat) (stem : String) : Call :=
  ⟨.ofSteps default calls steps, [.text stem], 0⟩

end FreshSymbols

open FreshSymbols in
/-- The names of generated symbols differ. Every call for one succeeds, whatever it is given; and of
    fewer than `2 ^ 64` calls that share a counter, such as that of an interpreter, no two come to the
    same name, whatever text each of them puts in front and in whatever order they and anything else
    come about. -/
theorem fresh_symbols_differ :
    (∀ (call : Call) (s : State), ∃ t, call.run s = .done (.ok (.symbol (freshName (call.stem s)
        (s.counters.getD call.counter 0).toNat))) t) ∧
      (∀ (k : Nat) (start s : State) (names : List String), k < start.counters.size →
        History k start names s → names.length < 2 ^ 64 → names.Nodup) ∧
      ∀ (manager : Manager) (traced : Bool) (libraries : Libraries) (w : World),
        (Interpreter.ofManager manager traced libraries w).1.counter <
          (Interpreter.ofManager manager traced libraries w).2.state.counters.size := by
  refine ⟨fun call s => ⟨_, call.run_eq s⟩, fun k start s names there history few => ?_,
    counter_ofManager⟩
  exact (history.numbered (Array.getElem?_eq_getElem there)).nodup few

open FreshSymbols in
/-- Two evaluators take turns; what the first call has come to is put in front by the second one, and
    nothing by the third one. -/
theorem fresh_symbols_differ_lookalikes :
    History 0 { counters := #[9] } ["a__9", "a__9__10", "__11"] { counters := #[12] } ∧
      ["a__9", "a__9__10", "__11"].Nodup := by
  have first : History 0 { counters := #[9] } ["a__9"] { counters := #[10] } :=
    History.start.call (stemmed .deferred 1 "a") rfl rfl
  have second : History 0 { counters := #[9] } ["a__9", "a__9__10"] { counters := #[11] } :=
    first.call (stemmed .immediate 2 "a__9") rfl rfl
  have history : History 0 { counters := #[9] } ["a__9", "a__9__10", "__11"] { counters := #[12] } :=
    second.call (stemmed .deferred 1 "") rfl rfl
  exact ⟨history, fresh_symbols_differ.2.1 0 _ _ _ (by decide) history (by decide)⟩

end PluginLisp
