import PluginLisp.Evaluator.Eval
import PluginLisp.Proofs.Machine.Store

/-!
Two evaluators side by side. What a computation in tail position comes to may be a pending call, so how
two such computations correspond is a relation of its own: it may say that they come to the same, or
that they come to the same once what is pending has been called. `TailRules` is what any such relation
has to satisfy, and two evaluators are aligned if they perform smaller work alike. From that, this and
the following modules derive that they perform all work alike.

Main results: `Aligned.evalBody`, `Aligned.enter`, `Aligned.resolve`.
-/

namespace PluginLisp

open Machine

namespace Correspondence

variable (c : Correspondence)

/-- Work on settled data in a scope that may be written. -/
def Workable : Work → Prop
  | .eval form scope => (c.clean → form.Settled) ∧ c.writable scope
  | .builtin _ args scope => (c.clean → Form.AllSettled args) ∧ c.writable scope
  | .enter k args => (c.clean → k.Settled) ∧ (c.clean → Value.AllSettled args)

/-- A way for computations in tail position to correspond. -/
structure TailRules (ev ev' : Evaluator) (T : Machine Value → Machine Value → Prop) : Prop where
  ofRel : ∀ {m m'}, c.Rel (c.Both Value.Settled) m m' → T m m'
  bind : ∀ {α β : Type} {Q : α → β → Prop} {m : Machine α} {m' : Machine β}
    {f : α → Machine Value} {f' : β → Machine Value}, c.Rel Q m m' →
      (∀ a b, Q a b → T (f a) (f' b)) → T (m >>= f) (m' >>= f')
  perform : ∀ {w}, c.Workable w → T (ev.perform w) (ev'.perform w)
  closure : ∀ {k args}, (c.clean → k.Settled) → (c.clean → Value.AllSettled args) →
    T (ev.callClosure k args) (ev'.callClosure k args)
  inFrame : ∀ {m m' left right}, T m m' →
    (ev.settings.traced = true → ev'.settings.traced = true →
      ∀ s t, c.States s t → left s = right t) → T (ev.inFrame left m) (ev'.inFrame right m')

/-- Two evaluators that perform smaller work alike. `S` is how their computations in tail position
    correspond. -/
structure Aligned (ev ev' : Evaluator) (S : Machine Value → Machine Value → Prop) : Prop where
  settings : c.settings ev.settings ev'.settings
  steps : ev.steps = ev'.steps ∨ c.lax ∧ ev.steps ≤ ev'.steps
  tails : c.TailRules ev ev' S
  force : ∀ {m m'}, S m m' → c.Rel (c.Both Value.Settled) (m >>= ev.force) (m' >>= ev'.force)

variable {c} {ev ev' : Evaluator} {S T : Machine Value → Machine Value → Prop}

/-! ### Symbols and closures -/

/-- The members of a module are the same on both sides. -/
theorem Rel.resolveMember (name : String) (scope : Nat) :
    c.Rel (c.Both Value.Settled) (Evaluator.resolveMember name scope)
      (Evaluator.resolveMember name scope) := by
  unfold Evaluator.resolveMember
  split
  next moduleName member _ =>
    split
    · exact Rel.failSame _
    · refine Rel.bindBoth (P := fun found => ∀ m, found = some m →
        Value.EntriesSettled m.members) (Rel.look fun s t states => ?_) fun found settled => ?_
      · exact ⟨by rw [states.scopes], fun clean m =>
          Scopes.module?_settled (states.settled clean).scopes⟩
      · split
        · exact Rel.failSame _
        next m =>
          split
          next v there =>
            exact Rel.pure ⟨rfl, fun clean => (settled clean m rfl).get? there⟩
          · exact Rel.failSame _
  · exact Rel.failSame _

theorem Rel.paramNames (form : String) (items : List Form) :
    c.Rel Eq (Evaluator.paramNames form items) (Evaluator.paramNames form items) := by
  induction items with
  | nil => exact Rel.pure rfl
  | cons item rest ih =>
      unfold Evaluator.paramNames
      split
      · exact ih.bindEq fun names => Rel.pure rfl
      · exact (Rel.formText item).bindEq fun text => Rel.failSame _

/-- Reading parameters needs the text of a form only. -/
theorem Rel.readParams (form : String) (params : Form) :
    c.Rel Eq (Evaluator.readParams form params) (Evaluator.readParams form params) := by
  unfold Evaluator.readParams
  split
  · apply (Rel.paramNames form _).bindEq
    intro names
    split
    · exact Rel.pure rfl
    · exact Rel.failSame _
  · apply (Rel.paramNames form _).bindEq
    intro names
    split
    · exact Rel.pure rfl
    · exact Rel.failSame _
  · exact Rel.failSame _

/-- A closure gets the same identity on both sides, and a settled body. -/
theorem Rel.makeClosure (form : String) (name : Option String) (params : Form)
    {body : List Form} (scope : Nat) (settled : c.clean → Form.AllSettled body) :
    c.Rel (c.Both Closure.Settled) (Evaluator.makeClosure form name params body scope)
      (Evaluator.makeClosure form name params body scope) := by
  apply (Rel.readParams form params).bindEq
  intro split
  refine Rel.update fun s t states => ⟨⟨?_, settled⟩, ?_⟩
  · obtain ⟨futures, jobs, rfl, -⟩ := states
    rfl
  · exact states.mapAside (f := fun s => { s with closures := s.closures + 1 })
      (fun _ _ => rfl) rfl rfl rfl rfl rfl

namespace TailRules

variable (tails : c.TailRules ev ev' T) {α : Type} {m m' : Machine α} {f f' : α → Machine Value}
include tails

/-- After a step with the same result on both sides. -/
theorem bindBoth {P : α → Prop} (first : c.Rel (c.Both P) m m')
    (next : ∀ a, (c.clean → P a) → T (f a) (f' a)) : T (m >>= f) (m' >>= f') :=
  tails.bind first fun a b both => by
    obtain ⟨rfl, holds⟩ := both
    exact next a holds

/-- After a step with the same result on both sides, of which nothing else matters. -/
theorem bindEq (first : c.Rel Eq m m') (next : ∀ a, T (f a) (f' a)) : T (m >>= f) (m' >>= f') :=
  tails.bind first fun a b same => by
    subst same
    exact next a

/-- A computation may go on in a new scope, which may be written. -/
theorem inNewScope (parent : Nat) {f f' : Nat → Machine Value}
    (next : ∀ inner, c.writable inner → T (f inner) (f' inner)) :
    T (newScope parent >>= f) (newScope parent >>= f') :=
  tails.bind (Rel.newScope parent) fun i j same => by
    obtain ⟨rfl, writable⟩ := same
    exact next i writable

theorem pure {v : Value} (settled : c.clean → v.Settled) : T (pure v) (pure v) :=
  tails.ofRel (Rel.pure ⟨rfl, settled⟩)

theorem fail (e : Error) : T (fail e) (fail e) := tails.ofRel (Rel.failSame e)

/-- A form may be evaluated in a tail position. -/
theorem evalTail {form : Form} {scope : Nat} (settled : c.clean → form.Settled)
    (writable : c.writable scope) : T (ev.evalTail form scope) (ev'.evalTail form scope) :=
  tails.perform ⟨settled, writable⟩

end TailRules

namespace Aligned

variable (aligned : c.Aligned ev ev' S) {scope : Nat}
include aligned

/-- Aligned evaluators evaluate a settled form to the same settled value. -/
theorem eval {form : Form} (settled : c.clean → form.Settled) (writable : c.writable scope) :
    c.Rel (c.Both Value.Settled) (ev.eval form scope) (ev'.eval form scope) :=
  aligned.force (aligned.tails.evalTail settled writable)

theorem registry : c.Rel Eq ev.registry ev'.registry := by
  apply Rel.look
  intro s t states
  rw [c.settings_manager aligned.settings]
  exact states.registry _

/-- The forms of a body, the last of them in tail position. -/
theorem evalBody (tails : c.TailRules ev ev' T) {body : List Form}
    (settled : c.clean → Form.AllSettled body) (writable : c.writable scope) :
    T (ev.evalBody body scope) (ev'.evalBody body scope) := by
  fun_induction Evaluator.evalBody ev body scope with
  | case1 =>
      rw [Evaluator.evalBody]
      exact tails.pure fun _ => trivial
  | case2 last =>
      rw [Evaluator.evalBody]
      exact tails.evalTail (fun clean => (settled clean).1) writable
  | case3 form rest more ih =>
      rw [Evaluator.evalBody]
      · refine tails.bindEq (aligned.eval (fun clean => (settled clean).1) writable).discard ?_
        exact fun _ => ih fun clean => (settled clean).2
      · exact more

/-- The value of a body is that of its last form. -/
theorem runBody {body : List Form} (settled : c.clean → Form.AllSettled body)
    (writable : c.writable scope) :
    c.Rel (c.Both Value.Settled) (ev.runBody body scope) (ev'.runBody body scope) :=
  aligned.force (aligned.evalBody aligned.tails settled writable)

/-- Arguments are evaluated from left to right, to settled values. -/
theorem evalAll {forms : List Form} (settled : c.clean → Form.AllSettled forms)
    (writable : c.writable scope) :
    c.Rel (c.Both Value.AllSettled) (ev.evalAll forms scope) (ev'.evalAll forms scope) := by
  have each : ∀ form ∈ forms, c.Rel (c.Both Value.Settled) (ev.eval form scope)
      (ev'.eval form scope) := fun form member =>
    aligned.eval (fun clean => Form.allSettled_iff.1 (settled clean) form member) writable
  exact (Rel.collect each).weaken fun _ _ both => both.weaken Value.allSettled_iff.2

/-- The call of a closure. -/
theorem enter (tails : c.TailRules ev ev' T) {k : Closure} {args : List Value}
    (settled : c.clean → k.Settled) (settledArgs : c.clean → Value.AllSettled args) :
    T (ev.enter k args) (ev'.enter k args) := by
  apply tails.inNewScope k.scope
  intro frame writable
  -- the text of the call is only made, and only matters, where errors are decorated
  refine tails.bind (Q := fun left right =>
    ev.settings.traced = true → ev'.settings.traced = true → left = right) ?_ ?_
  · unfold Evaluator.entryText
    split
    · split
      · exact Rel.look fun s t states _ _ => by rw [states.cells]
      · intro s t states
        exact .ok (fun _ traced => absurd traced ‹_›) states
    · split
      · intro s t states
        exact .ok (fun traced _ => absurd traced ‹_›) states
      · exact Rel.pure fun _ _ => rfl
  · intro left right texts
    refine tails.inFrame ?_ fun traced traced' s t _ => by rw [texts traced traced']
    apply tails.bindEq (Rel.bindParams writable settledArgs)
    intro _
    exact aligned.evalBody tails (fun clean => Closure.settled_iff.1 (settled clean)) writable

/-- A name is resolved to the same value: of a variable, a member or a builtin. -/
theorem resolve (name : String) :
    c.Rel (c.Both Value.Settled) (ev.resolve name scope) (ev'.resolve name scope) := by
  unfold Evaluator.resolve
  split
  · exact Rel.resolveMember name scope
  · apply aligned.registry.bindEq
    intro registry
    split
    · exact Rel.pure ⟨rfl, fun _ => trivial⟩
    · split
      · exact Rel.pure ⟨rfl, fun _ => trivial⟩
      · refine Rel.bindBoth (P := fun found => ∀ v, found = some v → v.Settled)
          (Rel.look fun s t states => ?_) fun found settled => ?_
        · exact ⟨by rw [states.scopes], fun clean v =>
            Scopes.find?_settled (states.settled clean).scopes⟩
        · split
          next v => exact Rel.pure ⟨rfl, fun clean => settled clean v rfl⟩
          next => exact Rel.failSame _

end Aligned

end Correspondence

end PluginLisp
