import PluginLisp.Proofs.Embedding.Forms
import PluginLisp.Proofs.Embedding.Primitives

/-!
Evaluation is indifferent to which decimals are embedded in code. A decimal literal that is written as
its decimal prints evaluates to that decimal, which is what the embedded one stands for; everything else
is evaluated by its parts. With any number of steps, under any settings and any policy of calls, forms
with the same embedding evaluate alike from states that are alike.

Main result: `Evaluator.indifferent_ofSteps`.
-/

namespace PluginLisp

open Machine

namespace Evaluator.Indifferent

variable {ev : Evaluator} (indifferent : ev.Indifferent) {scope : Nat}
include indifferent

/-- The entries of a map literal are evaluated alike. -/
theorem evalPairs (items : List Form) {entries entries' : Assoc Value}
    (same : entries.mapValues Value.embed = entries'.mapValues Value.embed) :
    Alike Value.embed (ev.evalPairs entries items scope)
      (ev.evalPairs entries' (items.map Form.embed) scope) := by
  induction entries, items using Evaluator.evalPairs.induct generalizing entries' with
  | case1 entries =>
      rw [List.map_nil, Evaluator.evalPairs, Evaluator.evalPairs]
      exact Alike.pure (by simp [same])
  | case2 entries item => exact Alike.fail _
  | case3 entries key value rest ih =>
      rw [List.map_cons, List.map_cons, Evaluator.evalPairs, Evaluator.evalPairs]
      refine (indifferent.eval (Form.embed_embed key).symm).bind fun k k' sameKey => ?_
      have name : k.asKey = k'.asKey := by rw [← Value.asKey_embed k, sameKey, Value.asKey_embed]
      refine (Alike.ofSame name).bindSame fun name => ?_
      refine (indifferent.eval (Form.embed_embed value).symm).bind fun v w sameValue => ?_
      apply ih name v
      rw [← Assoc.put_mapValues, ← Assoc.put_mapValues, same, sameValue]

omit indifferent in
/-- Whether a form names a builtin does not depend on embedding. -/
theorem headBuiltin (head : Form) :
    Alike id (ev.headBuiltin? head) (ev.headBuiltin? head.embed) := by
  cases head with
  | symbol name => exact registry.bindSame fun registry => Alike.pure rfl
  | big digits =>
      rw [Form.embed]
      rcases embedDecimal_cases digits with same | ⟨d, -, -, same⟩ <;> rw [same] <;>
        exact Alike.pure rfl
  | _ => exact Alike.pure rfl

/-- A call is evaluated alike, whether its head is a builtin, a macro or a function. -/
theorem evalList (head : Form) (args : List Form) :
    Alike Value.embed (ev.evalList head args scope)
      (ev.evalList head.embed (args.map Form.embed) scope) := by
  refine (headBuiltin head).bindSame fun found => ?_
  cases found with
  | some d =>
      refine inFrame (indifferent.performBuiltin d.builtin (by simp)) fun s t states => ?_
      have shown := Form.show_embed t.cells (.list (head :: args))
      rw [Form.embed, Form.embedAll_eq_map, List.map_cons] at shown
      rw [states.same State.cells_embed, shown]
  | none =>
      refine (indifferent.eval (Form.embed_embed head).symm).bind fun f g same => ?_
      exact indifferent.callTail same (by simp)

/-- Every form is evaluated as its embedding is. -/
theorem evalForm (form : Form) :
    Alike Value.embed (ev.evalForm form scope) (ev.evalForm form.embed scope) := by
  cases form with
  | number x => exact Alike.pure rfl
  | text s => exact Alike.pure rfl
  | boolean b => exact Alike.pure rfl
  | keyword name => exact Alike.pure rfl
  | literal v => exact Alike.pure (Value.embed_embed v).symm
  | symbol name => exact resolve name
  | big digits =>
      rw [Form.embed]
      rcases embedDecimal_cases digits with same | ⟨d, read, -, same⟩
      · rw [same]
        exact (Alike.ofSame rfl).bindSame fun d => Alike.pure rfl
      · rw [same, Evaluator.evalForm, Evaluator.evalForm, readDecimal, read]
        exact Alike.pure rfl
  | list items => cases items with
      | nil => exact Alike.fail _
      | cons head args =>
          rw [Form.embed, Form.embedAll_eq_map, List.map_cons, Evaluator.evalForm, Evaluator.evalForm]
          exact indifferent.evalList head args
  | vector items =>
      rw [Form.embed, Form.embedAll_eq_map, Evaluator.evalForm, Evaluator.evalForm]
      exact (indifferent.evalAll (by simp)).bind fun values values' same =>
        Alike.pure (by simp [same])
  | table items =>
      rw [Form.embed, Form.embedAll_eq_map, Evaluator.evalForm, Evaluator.evalForm]
      exact indifferent.evalPairs items rfl

/-- Every builtin acts alike on forms and their embeddings. -/
theorem runBuiltin (b : Builtin) (args : List Form) :
    Alike Value.embed (ev.runBuiltin b args scope)
      (ev.runBuiltin b (args.map Form.embed) scope) := by
  cases b with
  | form f => exact indifferent.runForm f args
  | primitive p =>
      rw [Evaluator.runBuiltin, Evaluator.runBuiltin, List.length_map]
      refine (Alike.ofSame rfl).bindSame fun _ => ?_
      refine (indifferent.evalAll (by simp)).bind fun values values' same => ?_
      exact Alike.of_embed (F := fun values => ev.runPrimitive p values scope)
        (indifferent.runPrimitive p) same
  | constant text => exact Alike.pure rfl

/-- An evaluator that is indifferent for smaller work is so for one level more. -/
theorem step {w w' : Work} (same : w.embed = w'.embed) :
    Alike Value.embed (ev.step w) (ev.step w') := by
  refine Alike.of_embed (F := ev.step) (fun w => ?_) same
  cases w with
  | eval form scope => exact indifferent.evalForm form
  | builtin b args scope => exact indifferent.runBuiltin b args
  | enter c args => exact indifferent.enter c (by simp)

end Evaluator.Indifferent

/-- Work with the same embedding is performed alike. The induction is on the number of steps. -/
theorem performWith_alike (settings : Settings) (calls : CallPolicy) (steps : Nat) {w w' : Work}
    (same : w.embed = w'.embed) :
    Alike Value.embed (performWith settings calls steps w) (performWith settings calls steps w') := by
  induction steps generalizing w w' with
  | zero => exact Alike.exhausted
  | succ steps ih =>
      rw [performWith_succ]
      exact Evaluator.Indifferent.step (fun _ _ same => ih same) same

/-- Evaluators of any number of steps are indifferent, by induction on it. -/
theorem Evaluator.indifferent_ofSteps (settings : Settings) (calls : CallPolicy) (steps : Nat) :
    (Evaluator.ofSteps settings calls steps).Indifferent :=
  fun _ _ same => performWith_alike settings calls steps same

end PluginLisp
