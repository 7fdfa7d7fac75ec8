import PluginLisp.Proofs.Evaluation.TailContexts
import PluginLisp.Proofs.Tracing

/-!
Calls of builtins by name. A builtin that leaves no call pending comes to a value exactly if its call
does. Where errors are decorated, its errors become errors of the call with the same root.

Main results: `evaluates_named_of_ok`, `evaluates_named_iff`, `exists_error_of_evaluates_named`.
-/

namespace PluginLisp.World

open Machine Evaluator

variable {settings : Settings} {scope : Nat} {w after : World} {e : Error}

/-! ### Decorated errors -/

section

variable {α : Type} {m : Machine α}

/-- An error is decorated where it passes, unless it is a panic. -/
theorem Ends.decorate_error (ends : w.Ends m (.error e) after) (change : State → Error → Error) :
    w.Ends (m.decorate change) (.error (if e.panic?.isSome then e else change after.state e))
      after := by
  obtain ⟨finished, rounds, ended⟩ := ends
  refine ⟨by simp, rounds + 1, ?_⟩
  rw [Machine.decorate, andThen_eq]
  exact drive_andThen ended finished rfl (by simp)

/-- A decorated error was an error before. -/
theorem Ends.of_decorate_error {change : State → Error → Error}
    (ends : w.Ends (m.decorate change) (.error e) after) :
    ∃ bare, w.Ends m (.error bare) after ∧
      e = if bare.panic?.isSome then bare else change after.state bare := by
  obtain ⟨finished, rounds, ended⟩ := ends
  rw [Machine.decorate, andThen_eq] at ended
  obtain ⟨outcome, u, first, rest⟩ := exists_drive_of_andThen ended finished
  cases rounds with
  | zero => cases outcome <;> cases rest
  | succ rounds =>
      cases outcome with
      | ok a => cases rest
      | error bare =>
          cases rest
          exact ⟨bare, ⟨by simp, rounds + 1, first⟩, rfl⟩
      | exhausted => cases rest

end

variable {ev : Evaluator} {m : Machine Value}

/-- The frame of a call keeps the root of an error. -/
theorem ends_inFrame_error (ends : w.Ends m (.error e) after) (frame : State → CallFrame) :
    ∃ e', w.Ends (ev.inFrame frame m) (.error e') after ∧ e'.root = e.root := by
  unfold inFrame
  split
  · refine ⟨_, ends.decorate_error _, ?_⟩
    split
    · rfl
    · exact Error.root_withFrame _ _
  · exact ⟨e, ends, rfl⟩

/-- An error from a frame has the root of the error of the call. -/
theorem ends_of_inFrame_error {frame : State → CallFrame}
    (ends : w.Ends (ev.inFrame frame m) (.error e) after) :
    ∃ bare, w.Ends m (.error bare) after ∧ e.root = bare.root := by
  unfold inFrame at ends
  split at ends
  · obtain ⟨bare, inside, rfl⟩ := ends.of_decorate_error
    refine ⟨bare, inside, ?_⟩
    split
    · rfl
    · exact Error.root_withFrame _ _
  · exact ⟨e, ends, rfl⟩

/-! ### Calls -/

section

variable {name : String} {d : Descriptor} {args : List Form} {v : Value}
  (found : (w.state.registry settings.manager).get? name = some d)

section

include found

/-- Looking up the head of a call finds the builtin and changes nothing. -/
theorem ends_headBuiltin? {n : Nat} :
    w.Ends ((ofSteps settings .deferred n).headBuiltin? (.symbol name)) (.ok (some d)) w :=
  ends_of_done (headBuiltin?_symbol found) (by simp)

/-- A call of a builtin that fails. -/
theorem evaluates_named_of_error {n : Nat}
    (fails : w.Ends ((ofSteps settings .deferred n).perform (.builtin d.builtin args scope)) (.error e)
      after) :
    ∃ e', w.Evaluates settings .deferred (.list (.symbol name :: args)) scope (.error e') after ∧
      e'.root = e.root := by
  let tower : Evaluator := ofSteps settings .deferred n
  let frame : State → CallFrame := fun s => ⟨d.name, (Form.list (.symbol name :: args)).show s.cells⟩
  obtain ⟨e', framed, root⟩ :
      ∃ e', w.Ends (tower.inFrame frame (tower.perform (.builtin d.builtin args scope)))
          (.error e') after ∧
        e'.root = e.root := ends_inFrame_error fails frame
  refine ⟨e', evaluates_iff_ends.2 ⟨n + 1, Ends.bind_error ?_⟩, root⟩
  rw [(ofSteps_isTower settings).evalTail_succ]
  exact (ends_headBuiltin? found).bind framed

/-- A call of a builtin that comes to a value which is no pending call. -/
theorem evaluates_named_of_ok {n : Nat}
    (ends : w.Ends ((ofSteps settings .deferred n).perform (.builtin d.builtin args scope)) (.ok v) after)
    (plain : v.IsPlain) :
    w.Evaluates settings .deferred (.list (.symbol name :: args)) scope (.ok v) after := by
  refine evaluates_iff_ends.2 ⟨n + 1, Ends.bind (a := v) (u := after) ?_ ?_⟩
  · rw [(ofSteps_isTower settings).evalTail_succ]
    exact ends_evalList_builtin found ends
  · rw [isForced_of_plain (Nat.succ_pos _) plain]
    exact ends_pure _ _

end

variable (plain : ∀ n,
  ((ofSteps settings .deferred n).perform (.builtin d.builtin args scope)).Gives Value.IsPlain)
include found plain

/-- The call of a builtin by name succeeds just if performing it does. -/
theorem evaluates_named_iff :
    w.Evaluates settings .deferred (.list (.symbol name :: args)) scope (.ok v) after ↔
      ∃ n, w.Ends ((ofSteps settings .deferred n).perform (.builtin d.builtin args scope)) (.ok v)
        after := by
  constructor
  · intro evaluates
    obtain ⟨n, ends⟩ := evaluates_iff_ends.1 evaluates
    obtain ⟨made, u, called, forced⟩ := ((ofSteps_below (Nat.le_succ n)).eval ends).of_bind
    rw [(ofSteps_isTower settings).evalTail_succ] at called
    have performed := ends_of_evalList_builtin found called
    rw [isForced_of_plain (Nat.succ_pos _) (performed.holds (plain n))] at forced
    obtain ⟨rfl, rfl⟩ := forced.eq_of_pure
    exact ⟨n, performed⟩
  · rintro ⟨n, ends⟩
    exact evaluates_named_of_ok found ends (ends.holds (plain n))

/-- An error of a call is one of the builtin. -/
theorem exists_error_of_evaluates_named
    (fails : w.Evaluates settings .deferred (.list (.symbol name :: args)) scope (.error e) after) :
    ∃ n bare, e.root = bare.root ∧
      w.Ends ((ofSteps settings .deferred n).perform (.builtin d.builtin args scope)) (.error bare)
        after := by
  obtain ⟨n, ends⟩ := evaluates_iff_ends.1 fails
  rcases ((ofSteps_below (Nat.le_succ n)).eval ends).bind_cases with ⟨v, u, called, forced⟩ | called
  · rw [(ofSteps_isTower settings).evalTail_succ] at called
    have performed := ends_of_evalList_builtin found called
    rw [isForced_of_plain (Nat.succ_pos _) (performed.holds (plain n))] at forced
    cases (forced.eq_of_done rfl).1
  · obtain ⟨e', same, called⟩ := called
    cases same
    rw [(ofSteps_isTower settings).evalTail_succ] at called
    rcases called.bind_cases with ⟨descriptor, u, head, performed⟩ | ⟨e', -, head⟩
    · obtain ⟨same, rfl⟩ := head.eq_of_done (headBuiltin?_symbol found)
      cases same
      obtain ⟨bare, performed, root⟩ := ends_of_inFrame_error performed
      exact ⟨n, bare, root, performed⟩
    · cases (head.eq_of_done (headBuiltin?_symbol found)).1

end

end PluginLisp.World
