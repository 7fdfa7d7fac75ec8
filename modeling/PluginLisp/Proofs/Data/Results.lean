import PluginLisp.Error

/-!
Results that may be errors: how the result of one computation goes into the next one, and how a function
is applied to it.

Main results: `bind_eq_ok_iff`, `map_eq_ok_iff`.
-/

namespace PluginLisp

variable {α β γ : Type}

/-- Two steps succeed just if the first does and then the second. -/
theorem bind_eq_ok_iff {r : Except Error α} {f : α → Except Error β} {b : β} :
    (r >>= f) = .ok b ↔ ∃ a, r = .ok a ∧ f a = .ok b := by
  cases r <;> simp [bind, Except.bind]

/-- A result that is changed is a success just if it was one. -/
theorem map_eq_ok_iff {r : Except Error α} {f : α → β} {b : β} :
    r.map f = .ok b ↔ ∃ a, r = .ok a ∧ f a = b := by
  cases r <;> simp [Except.map]

theorem map_ok (f : α → β) (a : α) : Except.map f (.ok a : Except Error α) = .ok (f a) := rfl

theorem map_error (f : α → β) (e : Error) : Except.map f (.error e) = .error e := rfl

theorem map_pure (f : α → β) (a : α) : Except.map f (pure a : Except Error α) = .ok (f a) := rfl

/-- The result of two steps is changed by changing that of the second. -/
theorem map_bind (f : β → γ) (r : Except Error α) (k : α → Except Error β) :
    Except.map f (r >>= k) = r >>= fun a => Except.map f (k a) := by
  cases r <;> rfl

/-- A result can be changed within the step that follows. -/
theorem bind_map (f : α → β) (r : Except Error α) (k : β → Except Error γ) :
    Except.map f r >>= k = r >>= fun a => k (f a) := by
  cases r <;> rfl

theorem map_map (f : α → β) (g : β → γ) (r : Except Error α) :
    Except.map g (Except.map f r) = Except.map (fun a => g (f a)) r := by
  cases r <;> rfl

end PluginLisp
