import PluginLisp.Proofs.Data.Templates
import PluginLisp.Proofs.Evaluation.NamedCalls

/-!
Quasiquotation. Whatever the shape of a template, the forms in its holes are evaluated from left to
right, each in the world that the one before it left, and the template with the values in place of its
holes is quoted. Map literals in a template are the exception: they are quoted as they are, holes and
all.

Main results: `ends_quasiquote_iff`, `quasiquote_fills_holes`.
-/

namespace PluginLisp

open Machine World Evaluator

/-! ### Filling a template -/

namespace Evaluator

variable {ev : Evaluator} {scope : Nat} {item spliced inner : Form} {items : List Form}

/-- A hole is filled by evaluating what is unquoted. -/
theorem quasiquote_hole (marked : marked? "unquote" items = some inner) :
    ev.quasiquote (.list items) scope = ev.eval inner scope := by
  simp only [quasiquote, marked]

theorem quasiquote_list (unmarked : marked? "unquote" items = none) :
    ev.quasiquote (.list items) scope =
      ev.quasiquoteItems items scope >>= fun vs => pure (.list vs) := by
  simp only [quasiquote, unmarked]

/-- A spliced item is filled by the elements of a sequence. -/
theorem quasiquoteItems_splice (marked : item.spliced? = some spliced) :
    ev.quasiquoteItems (item :: items) scope =
      ev.eval spliced scope >>= fun v => Machine.ofExcept v.asSeq >>= fun elements =>
        ev.quasiquoteItems items scope >>= fun rest => pure (elements ++ rest) := by
  cases item with
  | list inner =>
      rw [Form.spliced?] at marked
      simp only [quasiquoteItems, marked]
      rfl
  | _ => cases marked

/-- Any other item is filled as a template. -/
theorem quasiquoteItems_item (unmarked : item.spliced? = none) :
    ev.quasiquoteItems (item :: items) scope =
      ev.quasiquote item scope >>= fun v =>
        ev.quasiquoteItems items scope >>= fun rest => pure (v :: rest) := by
  cases item with
  | list inner =>
      rw [Form.spliced?] at unmarked
      simp only [quasiquoteItems, unmarked]
  | _ => simp only [quasiquoteItems]

variable {w after : World}

/-- What the forms in the holes of a template come to, in turn, is put in their place, and the template
    is quoted. Map literals have no holes. -/
def Completes (ev : Evaluator) (w : World) (T : Form) (scope : Nat) (v : Value) (after : World) :
    Prop :=
  ∃ values filled, w.Ends (ev.evalAll (T.holes false) scope) (.ok values) after ∧
    T.Fills false values filled ∧ filled.quote = .ok v

/-- The same for the items of a list or a vector. -/
def CompletesItems (ev : Evaluator) (w : World) (items : List Form) (scope : Nat) (vs : List Value)
    (after : World) : Prop :=
  ∃ values filled, w.Ends (ev.evalAll (Form.itemHoles false items) scope) (.ok values) after ∧
    Form.FillsItems false items values filled ∧ Form.quoteAll filled = .ok vs

/-- A hole is completed by what it evaluates to. -/
theorem completes_hole_iff {v : Value} (marked : marked? "unquote" items = some inner) :
    ev.Completes w (.list items) scope v after ↔ w.Ends (ev.eval inner scope) (.ok v) after := by
  simp only [Completes, Form.holes_hole marked, Form.fills_hole_iff marked]
  constructor
  · rintro ⟨values, filled, ends, ⟨v', rfl, rfl⟩, quoted⟩
    obtain ⟨x, u, rest, first, others, same⟩ := ends_evalAll_cons_iff.1 ends
    obtain ⟨rfl, rfl⟩ := others.eq_of_pure
    cases same
    cases quoted
    exact first
  · intro ends
    exact ⟨[v], .literal v, ends_evalAll_cons_iff.2 ⟨v, after, [], ends, ends_pure _ _, rfl⟩,
      ⟨v, rfl, rfl⟩, rfl⟩

/-- Lists and vectors are completed item by item. -/
theorem completes_sequence_iff {T : Form} {v : Value} {code : List Form → Form}
    {data : List Value → Value} (holes : T.holes false = Form.itemHoles false items)
    (fills : ∀ {values result}, T.Fills false values result ↔
      ∃ filled, result = code filled ∧ Form.FillsItems false items values filled)
    (quote : ∀ {filled v}, (code filled).quote = .ok v ↔
      ∃ vs, Form.quoteAll filled = .ok vs ∧ v = data vs) :
    ev.Completes w T scope v after ↔
      ∃ vs, ev.CompletesItems w items scope vs after ∧ v = data vs := by
  simp only [Completes, CompletesItems, holes, fills]
  constructor
  · rintro ⟨values, -, ends, ⟨filled, rfl, fills⟩, quoted⟩
    obtain ⟨vs, each, rfl⟩ := quote.1 quoted
    exact ⟨vs, ⟨values, filled, ends, fills, each⟩, rfl⟩
  · rintro ⟨vs, ⟨values, filled, ends, fills, quoted⟩, rfl⟩
    exact ⟨values, _, ends, ⟨filled, rfl, fills⟩, quote.2 ⟨vs, quoted, rfl⟩⟩

/-- A list is completed by completing its items. -/
theorem completes_list_iff {v : Value} (unmarked : marked? "unquote" items = none) :
    ev.Completes w (.list items) scope v after ↔
      ∃ vs, ev.CompletesItems w items scope vs after ∧ v = .list vs :=
  completes_sequence_iff (Form.holes_list unmarked) (Form.fills_list_iff unmarked)
    Form.quote_list_iff

/-- A vector is completed by completing its items. -/
theorem completes_vector_iff {v : Value} :
    ev.Completes w (.vector items) scope v after ↔
      ∃ vs, ev.CompletesItems w items scope vs after ∧ v = .vector vs :=
  completes_sequence_iff rfl Form.fills_vector_iff Form.quote_vector_iff

/-- A template without holes is completed by its data. -/
theorem completes_iff_of_holes_eq_nil {T : Form} {v : Value} (whole : T.holes false = []) :
    ev.Completes w T scope v after ↔ T.quote = .ok v ∧ after = w := by
  simp [Completes, whole, Form.fills_iff_of_holes_eq_nil T whole, evalAll_nil, ends_pure_iff,
    and_comm]

theorem completesItems_nil_iff {vs : List Value} :
    ev.CompletesItems w [] scope vs after ↔ vs = [] ∧ after = w := by
  simp [CompletesItems, Form.itemHoles, Form.fillsItems_nil_iff, evalAll_nil, ends_pure_iff,
    Form.quoteAll, and_comm, eq_comm]

/-- A spliced item is completed by the elements of what it evaluates to. -/
theorem completesItems_splice_iff {vs : List Value} (marked : item.spliced? = some spliced) :
    ev.CompletesItems w (item :: items) scope vs after ↔
      ∃ v u, w.Ends (ev.eval spliced scope) (.ok v) u ∧ ∃ elements, v.asSeq = .ok elements ∧
        ∃ rest, ev.CompletesItems u items scope rest after ∧ vs = elements ++ rest := by
  simp only [CompletesItems, Form.itemHoles_splice marked, Form.fillsItems_splice_iff marked,
    ends_evalAll_cons_iff]
  constructor
  · rintro ⟨-, -, ⟨v, u, values, first, others, rfl⟩,
      ⟨_, elements, _, filled, sequence, fills, same, rfl⟩, quoted⟩
    cases same
    obtain ⟨rest, each, rfl⟩ := Form.quoteAll_literals_append_iff.1 quoted
    exact ⟨v, u, first, elements, sequence, rest, ⟨values, filled, others, fills, each⟩, rfl⟩
  · rintro ⟨v, u, first, elements, sequence, rest, ⟨values, filled, others, fills, quoted⟩, rfl⟩
    exact ⟨_, _, ⟨v, u, values, first, others, rfl⟩,
      ⟨v, elements, values, filled, sequence, fills, rfl, rfl⟩,
      Form.quoteAll_literals_append_iff.2 ⟨rest, quoted, rfl⟩⟩

/-- Any other item is completed by itself. -/
theorem completesItems_item_iff {vs : List Value} (unmarked : item.spliced? = none) :
    ev.CompletesItems w (item :: items) scope vs after ↔
      ∃ v u, ev.Completes w item scope v u ∧
        ∃ rest, ev.CompletesItems u items scope rest after ∧ vs = v :: rest := by
  simp only [Completes, CompletesItems, Form.itemHoles_item unmarked,
    Form.fillsItems_item_iff unmarked, ends_evalAll_append_iff]
  constructor
  · rintro ⟨-, -, ⟨own, u, more, first, others, rfl⟩,
      ⟨own', form, more', filled, fill, fills, same, rfl⟩, quoted⟩
    -- as many values come from the holes of the item as are put in them
    have lengths : own.length = own'.length :=
      (length_of_ends_evalAll first).trans fill.length_eq.symm
    obtain ⟨rfl, rfl⟩ := List.append_inj same lengths
    obtain ⟨v, rest, quotes, each, rfl⟩ := Form.quoteAll_cons_iff.1 quoted
    exact ⟨v, u, ⟨own, form, first, fill, quotes⟩, rest, ⟨more, filled, others, fills, each⟩, rfl⟩
  · rintro ⟨v, u, ⟨own, form, first, fill, quotes⟩, rest, ⟨more, filled, others, fills, quoted⟩, rfl⟩
    exact ⟨_, _, ⟨own, u, more, first, others, rfl⟩,
      ⟨own, form, more, filled, fill, fills, rfl, rfl⟩,
      Form.quoteAll_cons_iff.2 ⟨v, rest, quotes, quoted, rfl⟩⟩

mutual

/-- Filling a template while it is walked through comes to the same as evaluating what is in all its
    holes first. -/
theorem ends_quasiquote_iff (T : Form) {w after : World} {v : Value} :
    w.Ends (ev.quasiquote T scope) (.ok v) after ↔ ev.Completes w T scope v after := by
  match T with
  | .list items =>
      cases marked : marked? "unquote" items with
      | some inner => rw [quasiquote_hole marked, completes_hole_iff marked]
      | none =>
          simp only [quasiquote_list marked, completes_list_iff marked, ends_map_iff,
            ends_quasiquoteItems_iff items]
  | .vector items =>
      simp only [quasiquote, completes_vector_iff, ends_map_iff, ends_quasiquoteItems_iff items]
  | .number _ | .big _ | .text _ | .boolean _ | .keyword _ | .symbol _ | .table _ | .literal _ =>
      rw [quasiquote, completes_iff_of_holes_eq_nil rfl]
      · exact ends_ofExcept_iff
      · nofun
      · nofun

theorem ends_quasiquoteItems_iff (items : List Form) {w after : World} {vs : List Value} :
    w.Ends (ev.quasiquoteItems items scope) (.ok vs) after ↔
      ev.CompletesItems w items scope vs after := by
  match items with
  | [] => rw [quasiquoteItems, ends_pure_iff, completesItems_nil_iff]
  | item :: rest =>
      cases marked : item.spliced? with
      | some spliced =>
          rw [quasiquoteItems_splice marked, completesItems_splice_iff marked, ends_bind_iff]
          simp only [ends_ofExcept_bind_iff, ends_map_iff, ends_quasiquoteItems_iff rest]
      | none =>
          rw [quasiquoteItems_item marked, completesItems_item_iff marked, ends_bind_iff]
          simp only [ends_map_iff, ends_quasiquote_iff item, ends_quasiquoteItems_iff rest]

end

/-! ### Pending calls -/

/-- Only a literal is quoted to a pending call. -/
theorem isPlain_of_quote {T : Form} {v : Value} (plain : ∀ u, T = .literal u → u.IsPlain)
    (quoted : T.quote = .ok v) : v.IsPlain := by
  intro c args pending
  subst pending
  cases T with
  | literal u =>
      cases quoted
      exact plain _ rfl c args rfl
  | symbol name =>
      rw [Form.quote] at quoted
      split at quoted <;> cases quoted
  | big digits =>
      rw [Form.quote] at quoted
      cases made : readDecimal digits <;> rw [made] at quoted <;> cases quoted
  | list items => cases (Form.quote_list_iff.1 quoted).choose_spec.2
  | vector items => cases (Form.quote_vector_iff.1 quoted).choose_spec.2
  | table items =>
      rw [Form.quote] at quoted
      cases made : Form.quotePairs [] items <;> rw [made] at quoted <;> cases quoted
  | _ => cases quoted

/-- A filled template is a plain value. -/
theorem quasiquote_gives_plain (T : Form) (plain : ∀ u, T = .literal u → u.IsPlain) :
    (ev.quasiquote T scope).Gives Value.IsPlain := by
  cases T with
  | list items =>
      cases marked : marked? "unquote" items with
      | some inner =>
          rw [quasiquote_hole marked]
          exact ev.eval_gives_plain inner scope
      | none =>
          rw [quasiquote_list marked]
          exact (Gives.any _).bind fun vs _ => Gives.pure fun _ _ => nofun
  | vector items =>
      rw [quasiquote]
      exact (Gives.any _).bind fun vs _ => Gives.pure fun _ _ => nofun
  | _ => exact Gives.ofExcept fun v => isPlain_of_quote plain

end Evaluator

/-- A special form with one argument, as it is written. -/
def SpecialForm.on (f : SpecialForm) (x : Form) : Form := .list [.symbol f.name, x]

namespace World

variable {settings : Settings} {scope : Nat} {w after : World} {forms : List Form}
  {values : List Value} {T x : Form} {v : Value} {f : SpecialForm}

/-- The forms are evaluated one after the other, each in the world that the one before it left. -/
inductive EvaluatesInTurn (settings : Settings) (scope : Nat) :
    World → List Form → List Value → World → Prop where
  | nil (w : World) : EvaluatesInTurn settings scope w [] [] w
  | cons {w u after : World} {form : Form} {forms : List Form} {v : Value} {values : List Value}
      (first : w.Evaluates settings .deferred form scope (.ok v) u)
      (rest : EvaluatesInTurn settings scope u forms values after) :
      EvaluatesInTurn settings scope w (form :: forms) (v :: values) after

/-- Forms are evaluated in turn if some number of steps suffices for all of them. -/
theorem evaluatesInTurn_iff_ends :
    w.EvaluatesInTurn settings scope forms values after ↔
      ∃ n, w.Ends ((ofSteps settings .deferred n).evalAll forms scope) (.ok values) after := by
  constructor
  · intro inTurn
    induction inTurn with
    | nil w => exact ⟨0, ends_pure w _⟩
    | cons first _ ih =>
        obtain ⟨i, first⟩ := evaluates_iff_ends.1 first
        obtain ⟨j, rest⟩ := ih
        exact ⟨max i j, ends_evalAll_cons_iff.2 ⟨_, _, _,
          (ofSteps_below (Nat.le_max_left i j)).eval first,
          (ofSteps_below (Nat.le_max_right i j)).evalAll rest, rfl⟩⟩
  · rintro ⟨n, ends⟩
    induction forms generalizing w values with
    | nil =>
        obtain ⟨rfl, rfl⟩ := ends.eq_of_pure
        exact .nil _
    | cons form forms ih =>
        obtain ⟨v, u, rest, first, others, rfl⟩ := ends_evalAll_cons_iff.1 ends
        exact .cons (evaluates_iff_ends.2 ⟨n, first⟩) (ih others)

/-- The forms in the holes of a template are evaluated in turn, their values are put in place of the
    holes, and what comes of it is quoted. -/
def FillsTo (settings : Settings) (inTables : Bool) (w : World) (T : Form) (scope : Nat) (v : Value)
    (after : World) : Prop :=
  ∃ values filled, w.EvaluatesInTurn settings scope (T.holes inTables) values after ∧
    T.Fills inTables values filled ∧ filled.quote = .ok v

theorem fillsTo_iff_completes :
    w.FillsTo settings false T scope v after ↔
      ∃ n, (ofSteps settings .deferred n).Completes w T scope v after := by
  constructor
  · rintro ⟨values, filled, inTurn, fills, quoted⟩
    obtain ⟨n, ends⟩ := evaluatesInTurn_iff_ends.1 inTurn
    exact ⟨n, values, filled, ends, fills, quoted⟩
  · rintro ⟨n, values, filled, ends, fills, quoted⟩
    exact ⟨values, filled, evaluatesInTurn_iff_ends.2 ⟨n, ends⟩, fills, quoted⟩

theorem fillsTo_iff_of_holes_eq_nil (whole : T.holes false = []) :
    w.FillsTo settings false T scope v after ↔ T.quote = .ok v ∧ after = w := by
  simp [fillsTo_iff_completes, completes_iff_of_holes_eq_nil whole]

/-- Where no map literal in the template has holes, it does not matter whether they are filled. -/
theorem fillsTo_iff_of_holes_eq (same : T.holes true = T.holes false) :
    w.FillsTo settings true T scope v after ↔ w.FillsTo settings false T scope v after := by
  simp only [FillsTo, same, Form.fills_iff_of_holes_eq T same]

/-! ### Calls of special forms -/

/-- A special form is registered under its usual name. -/
def Offers (settings : Settings) (w : World) (f : SpecialForm) : Prop :=
  ∃ d, (w.state.registry settings.manager).get? f.name = some d ∧ d.builtin = .form f

section

variable {args : List Form} {run : Nat → Machine Value} {d : Descriptor} {e : Error}

/-- A special form is performed by running it, with one step less. -/
theorem perform_form (form : d.builtin = .form f)
    (runs : ∀ n, (ofSteps settings .deferred n).runForm f args scope = run n) (n : Nat) :
    (ofSteps settings .deferred (n + 1)).perform (.builtin d.builtin args scope) = run n := by
  rw [(ofSteps_isTower settings).next n, form]
  exact runs n

theorem perform_form_gives_plain (form : d.builtin = .form f)
    (runs : ∀ n, (ofSteps settings .deferred n).runForm f args scope = run n)
    (plain : ∀ n, (run n).Gives Value.IsPlain) (n : Nat) :
    ((ofSteps settings .deferred n).perform (.builtin d.builtin args scope)).Gives Value.IsPlain := by
  cases n with
  | zero => exact Gives.exhausted
  | succ n =>
      rw [perform_form form runs]
      exact plain n

/-- A special form that leaves no call pending comes to what running it comes to. -/
theorem evaluates_form_iff (offers : w.Offers settings f)
    (runs : ∀ n, (ofSteps settings .deferred n).runForm f args scope = run n)
    (plain : ∀ n, (run n).Gives Value.IsPlain) :
    w.Evaluates settings .deferred (.list (.symbol f.name :: args)) scope (.ok v) after ↔
      ∃ n, w.Ends (run n) (.ok v) after := by
  obtain ⟨d, found, form⟩ := offers
  rw [evaluates_named_iff found (perform_form_gives_plain form runs plain)]
  constructor
  · rintro ⟨_ | n, ends⟩
    · exact absurd ends not_ends_exhausted
    · rw [perform_form form runs] at ends
      exact ⟨n, ends⟩
  · rintro ⟨n, ends⟩
    refine ⟨n + 1, ?_⟩
    rw [perform_form form runs]
    exact ends

/-- It fails where running it does. -/
theorem exists_error_of_evaluates_form (offers : w.Offers settings f)
    (runs : ∀ n, (ofSteps settings .deferred n).runForm f args scope = run n)
    (plain : ∀ n, (run n).Gives Value.IsPlain)
    (fails : w.Evaluates settings .deferred (.list (.symbol f.name :: args)) scope (.error e) after) :
    ∃ n bare, e.root = bare.root ∧ w.Ends (run n) (.error bare) after := by
  obtain ⟨d, found, form⟩ := offers
  obtain ⟨_ | n, bare, root, ends⟩ :=
    exists_error_of_evaluates_named found (perform_form_gives_plain form runs plain) fails
  · exact absurd ends not_ends_exhausted
  · rw [perform_form form runs] at ends
    exact ⟨n, bare, root, ends⟩

theorem evaluates_form_of_error (offers : w.Offers settings f)
    (runs : ∀ n, (ofSteps settings .deferred n).runForm f args scope = run n) {n : Nat}
    (fails : w.Ends (run n) (.error e) after) :
    ∃ e', w.Evaluates settings .deferred (.list (.symbol f.name :: args)) scope (.error e') after ∧
      e'.root = e.root := by
  obtain ⟨d, found, form⟩ := offers
  rw [← perform_form form runs] at fails
  exact evaluates_named_of_error found fails

end

/-- A template evaluates to what its holes are filled to. -/
theorem evaluates_quasiquote_iff (offers : w.Offers settings .quasiquote)
    (plain : ∀ u, T = .literal u → u.IsPlain) :
    w.Evaluates settings .deferred (SpecialForm.quasiquote.on T) scope (.ok v) after ↔
      w.FillsTo settings false T scope v after := by
  have runs (n : Nat) : (ofSteps settings .deferred n).runForm .quasiquote [T] scope =
      (ofSteps settings .deferred n).quasiquote T scope := rfl
  rw [fillsTo_iff_completes, SpecialForm.on,
    evaluates_form_iff offers runs fun n => quasiquote_gives_plain T plain]
  simp only [ends_quasiquote_iff]

/-- A quoted form evaluates to its data. -/
theorem evaluates_quote_iff (offers : w.Offers settings .quote)
    (plain : ∀ u, T = .literal u → u.IsPlain) :
    w.Evaluates settings .deferred (SpecialForm.quote.on T) scope (.ok v) after ↔
      T.quote = .ok v ∧ after = w := by
  have runs (n : Nat) : (ofSteps settings .deferred n).runForm .quote [T] scope =
      Machine.ofExcept T.quote := rfl
  rw [SpecialForm.on, evaluates_form_iff offers runs fun n =>
    Gives.ofExcept fun v => isPlain_of_quote plain, exists_const]
  exact ends_ofExcept_iff

end World

/-- A quasiquotation comes to a value exactly if the forms in the holes of its template do, evaluated
    from left to right, and the template with these values in its holes can be quoted; holes in map
    literals are left as they are. So all holes are filled if none of them is in a map literal, and a
    template without holes comes to the same as a quotation. -/
theorem quasiquote_fills_holes (settings : Settings) (scope : Nat) (w : World) (T : Form)
    (offers : w.Offers settings .quasiquote) (plain : ∀ u, T = .literal u → u.IsPlain) :
    (∀ v after, w.Evaluates settings .deferred (SpecialForm.quasiquote.on T) scope (.ok v) after ↔
      w.FillsTo settings false T scope v after) ∧
    (T.holes true = T.holes false → ∀ v after,
      w.Evaluates settings .deferred (SpecialForm.quasiquote.on T) scope (.ok v) after ↔
        w.FillsTo settings true T scope v after) ∧
    (T.holes false = [] → w.Offers settings .quote → ∀ v after,
      w.Evaluates settings .deferred (SpecialForm.quasiquote.on T) scope (.ok v) after ↔
        w.Evaluates settings .deferred (SpecialForm.quote.on T) scope (.ok v) after) := by
  refine ⟨fun v after => evaluates_quasiquote_iff offers plain, fun same v after => ?_,
    fun whole quotes v after => ?_⟩
  · rw [evaluates_quasiquote_iff offers plain, fillsTo_iff_of_holes_eq same]
  · rw [evaluates_quasiquote_iff offers plain, fillsTo_iff_of_holes_eq_nil whole,
      evaluates_quote_iff quotes plain]

/-- A world with `quasiquote` and `quote`, and with variables for one value and for two. -/
def withTemplates : World where
  state := {
    managers := #[{ registry := ⟨[
      ("quasiquote", .ofBuiltin "core" (.form .quasiquote)),
      ("quote", .ofBuiltin "core" (.form .quote))]⟩ }]
    scopes := #[{ bindings := [("x", .text "one"), ("xs", .list [.text "two", .text "three"])] }] }

/-- A list of a symbol, a hole and a vector into which values are spliced before another hole. -/
def nestedTemplate : Form :=
  .list [.symbol "a", .list [.symbol "unquote", .symbol "x"],
    .vector [.list [.symbol "unquote-splicing", .symbol "xs"],
      .list [.symbol "unquote", .symbol "x"]]]

/-- A map literal with a hole for a value. -/
def tableTemplate : Form := .table [.keyword "a", .list [.symbol "unquote", .symbol "x"]]

theorem withTemplates_x :
    withTemplates.Evaluates {} .deferred (.symbol "x") 0 (.ok (.text "one")) withTemplates := by
  refine evaluates_of_done 3 ?_
  cbv

/-- Holes in a list and in a vector in it. -/
theorem quasiquote_fills_nested :
    withTemplates.Evaluates {} .deferred (SpecialForm.quasiquote.on nestedTemplate) 0
      (.ok (.list [.symbol "a", .text "one", .vector [.text "two", .text "three", .text "one"]]))
      withTemplates := by
  have offers : withTemplates.Offers {} .quasiquote := ⟨_, rfl, rfl⟩
  have plain : ∀ u, nestedTemplate = .literal u → u.IsPlain := by
    intro u same
    cases same
  refine ((quasiquote_fills_holes {} 0 withTemplates nestedTemplate offers plain).2.1 rfl _ _).2 ?_
  have xs : withTemplates.Evaluates {} .deferred (.symbol "xs") 0
      (.ok (.list [.text "two", .text "three"])) withTemplates := by
    refine evaluates_of_done 3 ?_
    cbv
  have symbol : (Form.symbol "a").Fills true [] (.symbol "a") :=
    (Form.fills_iff_of_holes_eq_nil _ rfl).2 ⟨rfl, rfl⟩
  have fills : nestedTemplate.Fills true
      ([] ++ ([.text "one"] ++ ((.list [.text "two", .text "three"] :: ([.text "one"] ++ [])) ++ [])))
      (.list [.symbol "a", .literal (.text "one"),
        .vector (literals [.text "two", .text "three"] ++ [.literal (.text "one")])]) :=
    .list rfl (.item rfl symbol (.item rfl (.hole rfl _)
      (.item rfl (.vector (.splice rfl rfl (.item rfl (.hole rfl _) .nil))) .nil)))
  exact ⟨_, _, .cons withTemplates_x (.cons xs (.cons withTemplates_x (.nil _))), fills, rfl⟩

/-- The hole in a map literal is left as it is, though it would be filled with a value. -/
theorem quasiquote_leaves_table_holes :
    withTemplates.FillsTo {} true tableTemplate 0 (.map [("a", .text "one")]) withTemplates ∧
    ∀ outcome after,
      withTemplates.Evaluates {} .deferred (SpecialForm.quasiquote.on tableTemplate) 0 outcome after →
        outcome = .ok (.map [("a", .list [.symbol "unquote", .symbol "x"])]) := by
  constructor
  · have key : (Form.keyword "a").Fills true [] (.keyword "a") :=
      (Form.fills_iff_of_holes_eq_nil _ rfl).2 ⟨rfl, rfl⟩
    have fills : tableTemplate.Fills true ([] ++ ([.text "one"] ++ []))
        (.table [.keyword "a", .literal (.text "one")]) :=
      .table rfl (.cons key (.cons (.hole rfl _) .nil))
    exact ⟨_, _, .cons withTemplates_x (.nil _), fills, rfl⟩
  · intro outcome after evaluates
    have left : withTemplates.Evaluates {} .deferred (SpecialForm.quasiquote.on tableTemplate) 0
        (.ok (.map [("a", .list [.symbol "unquote", .symbol "x"])])) withTemplates := by
      refine evaluates_of_done 3 ?_
      cbv
    exact congrArg Prod.fst (evaluates.unique rfl left)

end PluginLisp
