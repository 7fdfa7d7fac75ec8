import PluginLisp.Syntax.Read

/-!
The grammar of forms, and the reader that accepts it. A form is one token that stands for itself, forms
between round or square brackets, pairs of forms between curly ones, or a mark and the form that it
applies to. A `Derivation` says how tokens are put together by these rules: `kinds` are the tokens it
uses, in order, and `form` is what it reads as. The reader answers with forms exactly if the tokens
before the end have a derivation, and then with the forms of that derivation, which is the only one.

Main result: `readAll_eq_ok_iff_derivation`.
-/

namespace PluginLisp

/-- The tokens that are forms by themselves. -/
inductive Leaf where
  | number (x : Float)
  | big (digits : String)
  | text (s : String)
  | boolean (b : Bool)
  | keyword (name : String)
  | symbol (name : String)

/-- The token. -/
def Leaf.kind : Leaf → TokenKind
  | number x => .number x
  | big digits => .big digits
  | text s => .text s
  | boolean b => .boolean b
  | keyword name => .keyword name
  | symbol name => .symbol name

/-- What the token reads as. -/
def Leaf.form : Leaf → Form
  | number x => .number x
  | big digits => .big digits
  | text s => .text s
  | boolean b => .boolean b
  | keyword name => .keyword name
  | symbol name => .symbol name

/-- A token is a form by itself, or a bracket, or a mark, or the end of the input. -/
theorem TokenKind.leaf_or_other (kind : TokenKind) : (∃ l : Leaf, kind = l.kind) ∨
    (∃ b, kind = .opening b) ∨ (∃ b, kind = .closing b) ∨ (∃ m, kind = .mark m) ∨ kind = .finish := by
  cases kind with
  | number x => exact Or.inl ⟨.number x, rfl⟩
  | big digits => exact Or.inl ⟨.big digits, rfl⟩
  | text s => exact Or.inl ⟨.text s, rfl⟩
  | boolean b => exact Or.inl ⟨.boolean b, rfl⟩
  | keyword name => exact Or.inl ⟨.keyword name, rfl⟩
  | symbol name => exact Or.inl ⟨.symbol name, rfl⟩
  | opening b => exact Or.inr (Or.inl ⟨b, rfl⟩)
  | closing b => exact Or.inr (Or.inr (Or.inl ⟨b, rfl⟩))
  | mark m => exact Or.inr (Or.inr (Or.inr (Or.inl ⟨m, rfl⟩)))
  | finish => exact Or.inr (Or.inr (Or.inr (Or.inr rfl)))

/-- How tokens make up a form. -/
inductive Derivation where
  | leaf (l : Leaf)
  /-- Forms between round brackets. -/
  | list (items : List Derivation)
  /-- Forms between square brackets. -/
  | vector (items : List Derivation)
  /-- Pairs of forms between curly brackets. -/
  | table (entries : List (Derivation × Derivation))
  /-- A mark before a form. -/
  | marked (m : Mark) (inner : Derivation)

namespace Derivation

mutual

/-- The tokens that a derivation uses, in order. -/
def kinds : Derivation → List TokenKind
  | leaf l => [l.kind]
  | list items => .opening .round :: (kindsAll items ++ [.closing .round])
  | vector items => .opening .square :: (kindsAll items ++ [.closing .square])
  | table entries => .opening .curly :: (kindsPairs entries ++ [.closing .curly])
  | marked m inner => .mark m :: inner.kinds

/-- The tokens of several derivations. -/
def kindsAll : List Derivation → List TokenKind
  | [] => []
  | d :: rest => d.kinds ++ kindsAll rest

/-- The tokens of pairs of derivations. -/
def kindsPairs : List (Derivation × Derivation) → List TokenKind
  | [] => []
  | (key, value) :: rest => key.kinds ++ (value.kinds ++ kindsPairs rest)

end

mutual

/-- The form that is derived: a mark before a form stands for a list of two. -/
def form : Derivation → Form
  | leaf l => l.form
  | list items => .list (forms items)
  | vector items => .vector (forms items)
  | table entries => .table (formsPairs entries)
  | marked m inner => .list [.symbol m.symbol, inner.form]

/-- The forms of several derivations. -/
def forms : List Derivation → List Form
  | [] => []
  | d :: rest => d.form :: forms rest

/-- The forms of pairs of derivations. -/
def formsPairs : List (Derivation × Derivation) → List Form
  | [] => []
  | (key, value) :: rest => key.form :: value.form :: formsPairs rest

end

@[simp] theorem kindsAll_append (ds es : List Derivation) :
    kindsAll (ds ++ es) = kindsAll ds ++ kindsAll es := by
  induction ds with
  | nil => rfl
  | cons d rest ih => simp [kindsAll, ih]

@[simp] theorem forms_append (ds es : List Derivation) :
    forms (ds ++ es) = forms ds ++ forms es := by
  induction ds with
  | nil => rfl
  | cons d rest ih => simp [forms, ih]

@[simp] theorem length_forms (ds : List Derivation) : (forms ds).length = ds.length := by
  induction ds with
  | nil => rfl
  | cons d rest ih => simp [forms, ih]

/-- An even number of derivations makes up pairs. -/
theorem exists_pairs :
    ∀ ds : List Derivation, ds.length % 2 = 0 →
      ∃ entries, kindsPairs entries = kindsAll ds ∧ formsPairs entries = forms ds
  | [], _ => ⟨[], rfl, rfl⟩
  | [_], odd => by simp at odd
  | key :: value :: rest, even => by
      obtain ⟨entries, sameKinds, sameForms⟩ := exists_pairs rest (by simp at even; omega)
      refine ⟨(key, value) :: entries, ?_, ?_⟩
      · simp [kindsPairs, kindsAll, sameKinds]
      · simp [formsPairs, forms, sameForms]

/-- Pairs of derivations have an even number of forms. -/
theorem length_formsPairs (entries : List (Derivation × Derivation)) :
    (formsPairs entries).length % 2 = 0 := by
  induction entries with
  | nil => rfl
  | cons entry rest ih =>
      obtain ⟨key, value⟩ := entry
      simp only [formsPairs, List.length_cons]
      omega

/-! ### Derivations are unique -/

/-- A derivation starts with a token that closes nothing. -/
theorem kinds_eq_cons (d : Derivation) :
    ∃ head tail, d.kinds = head :: tail ∧ ∀ b, head ≠ .closing b := by
  cases d with
  | leaf l =>
      refine ⟨l.kind, [], by simp [kinds], ?_⟩
      cases l <;> simp [Leaf.kind]
  | list items => exact ⟨_, _, by rw [kinds], by simp⟩
  | vector items => exact ⟨_, _, by rw [kinds], by simp⟩
  | table entries => exact ⟨_, _, by rw [kinds], by simp⟩
  | marked m inner => exact ⟨_, _, by rw [kinds], by simp⟩

/-- The tokens of a derivation do not start with a closing bracket. -/
theorem kinds_append_ne_closing (d : Derivation) (after rest : List TokenKind) (b : Bracket) :
    d.kinds ++ after ≠ .closing b :: rest := by
  obtain ⟨head, tail, starts, other⟩ := d.kinds_eq_cons
  rw [starts]
  intro same
  exact other b (List.cons.inj same).1

theorem leaf_kind_injective {l l' : Leaf} (same : l.kind = l'.kind) : l = l' := by
  cases l <;> cases l' <;> simp_all [Leaf.kind]

mutual

/-- The tokens tell where a derivation ends and which one it is. -/
theorem kinds_append_inj : ∀ {d d' : Derivation} {after after' : List TokenKind},
    d.kinds ++ after = d'.kinds ++ after' → d = d' ∧ after = after'
  | leaf l, d', after, after', same => by
      cases d' with
      | leaf l' =>
          simp only [kinds, List.cons_append, List.nil_append, List.cons.injEq] at same
          exact ⟨congrArg leaf (leaf_kind_injective same.1), same.2⟩
      | _ => cases l <;> simp [kinds, Leaf.kind] at same
  | list items, d', after, after', same => by
      cases d' with
      | leaf l => cases l <;> simp [kinds, Leaf.kind] at same
      | list items' =>
          simp only [kinds, List.cons_append, List.append_assoc, List.nil_append, List.cons.injEq,
            true_and] at same
          obtain ⟨rfl, rfl⟩ := kindsAll_closing_inj same
          exact ⟨rfl, rfl⟩
      | _ => simp [kinds] at same
  | vector items, d', after, after', same => by
      cases d' with
      | leaf l => cases l <;> simp [kinds, Leaf.kind] at same
      | vector items' =>
          simp only [kinds, List.cons_append, List.append_assoc, List.nil_append, List.cons.injEq,
            true_and] at same
          obtain ⟨rfl, rfl⟩ := kindsAll_closing_inj same
          exact ⟨rfl, rfl⟩
      | _ => simp [kinds] at same
  | table entries, d', after, after', same => by
      cases d' with
      | leaf l => cases l <;> simp [kinds, Leaf.kind] at same
      | table entries' =>
          simp only [kinds, List.cons_append, List.append_assoc, List.nil_append, List.cons.injEq,
            true_and] at same
          obtain ⟨rfl, rfl⟩ := kindsPairs_closing_inj same
          exact ⟨rfl, rfl⟩
      | _ => simp [kinds] at same
  | marked m inner, d', after, after', same => by
      cases d' with
      | leaf l => cases l <;> simp [kinds, Leaf.kind] at same
      | marked m' inner' =>
          simp only [kinds, List.cons_append, List.cons.injEq, TokenKind.mark.injEq] at same
          obtain ⟨rfl, rfl⟩ := kinds_append_inj same.2
          exact ⟨by rw [same.1], rfl⟩
      | _ => simp [kinds] at same

/-- The tokens up to a closing bracket tell which derivations stand before it. -/
theorem kindsAll_closing_inj : ∀ {ds ds' : List Derivation} {b : Bracket}
    {after after' : List TokenKind},
    kindsAll ds ++ .closing b :: after = kindsAll ds' ++ .closing b :: after' →
      ds = ds' ∧ after = after'
  | [], [], _, _, _, same => ⟨rfl, by simpa [kindsAll] using same⟩
  | [], d' :: rest', b, after, after', same => by
      simp only [kindsAll, List.append_assoc] at same
      exact absurd same.symm (d'.kinds_append_ne_closing _ _ b)
  | d :: rest, [], b, after, after', same => by
      simp only [kindsAll, List.append_assoc] at same
      exact absurd same (d.kinds_append_ne_closing _ _ b)
  | d :: rest, d' :: rest', b, after, after', same => by
      simp only [kindsAll, List.append_assoc] at same
      obtain ⟨rfl, sameRest⟩ := kinds_append_inj same
      obtain ⟨rfl, rfl⟩ := kindsAll_closing_inj sameRest
      exact ⟨rfl, rfl⟩

/-- The same for pairs of derivations. -/
theorem kindsPairs_closing_inj : ∀ {entries entries' : List (Derivation × Derivation)} {b : Bracket}
    {after after' : List TokenKind},
    kindsPairs entries ++ .closing b :: after = kindsPairs entries' ++ .closing b :: after' →
      entries = entries' ∧ after = after'
  | [], [], _, _, _, same => ⟨rfl, by simpa [kindsPairs] using same⟩
  | [], (key', value') :: rest', b, after, after', same => by
      simp only [kindsPairs, List.append_assoc] at same
      exact absurd same.symm (key'.kinds_append_ne_closing _ _ b)
  | (key, value) :: rest, [], b, after, after', same => by
      simp only [kindsPairs, List.append_assoc] at same
      exact absurd same (key.kinds_append_ne_closing _ _ b)
  | (key, value) :: rest, (key', value') :: rest', b, after, after', same => by
      simp only [kindsPairs, List.append_assoc] at same
      obtain ⟨rfl, sameValue⟩ := kinds_append_inj same
      obtain ⟨rfl, sameRest⟩ := kinds_append_inj sameValue
      obtain ⟨rfl, rfl⟩ := kindsPairs_closing_inj sameRest
      exact ⟨rfl, rfl⟩

end

/-- No two sequences of derivations use the same tokens. -/
theorem kindsAll_injective {ds ds' : List Derivation} (same : kindsAll ds = kindsAll ds') :
    ds = ds' := by
  have closed : kindsAll ds ++ [.closing .round] = kindsAll ds' ++ [.closing .round] := by rw [same]
  exact (kindsAll_closing_inj closed).1

end Derivation

open PluginLisp.Derivation

/-! ### Derivations are read -/

/-- A run over tokens that goes by the steps of the reader. What becomes of a step is up to `next`, but
    where constructs stay open the run goes on with them. -/
structure GoesBySteps {β : Type} (run : List Pending → List Token → β)
    (next : List Token → ReadStep → β) : Prop where
  step : ∀ {stack : List Pending} {t : Token} {rest : List Token}, t.kind ≠ .finish →
    run stack (t :: rest) = next rest (readStep stack t)
  pending : ∀ (stack : List Pending) (rest : List Token), next rest (.pending stack) = run stack rest

section

variable {β : Type} {run : List Pending → List Token → β} {next : List Token → ReadStep → β}
  {stack : List Pending} {rest : List Token}

theorem readStep_leaf {t : Token} {l : Leaf} (kind : t.kind = l.kind) :
    readStep stack t = supply l.form stack := by
  cases l <;> simp [readStep, kind, Leaf.kind, Leaf.form]

/-- A run through a pair of brackets, where the tokens between them bring in the forms `items`. -/
theorem GoesBySteps.bracket (goes : GoesBySteps run next) {b : Bracket} {tokens : List Token}
    {ks : List TokenKind} {items : List Form} {f : Form}
    (same : tokens.map Token.kind = .opening b :: (ks ++ [.closing b]))
    (closes : ∀ opener, closeBracket b opener items = .ok f)
    (reads : ∀ {inner : List Token}, inner.map Token.kind = ks → ∀ opener rest,
      run (.bracket b opener [] :: stack) (inner ++ rest) =
        run (.bracket b opener items.reverse :: stack) rest) :
    run stack (tokens ++ rest) = next rest (supply f stack) := by
  obtain ⟨opener, more, rfl, opens, others⟩ := List.map_eq_cons_iff.1 same
  obtain ⟨inner, last, rfl, between, ending⟩ := List.map_eq_append_iff.1 others
  obtain ⟨closer, none, rfl, closing, nothing⟩ := List.map_eq_cons_iff.1 ending
  obtain rfl := List.map_eq_nil_iff.1 nothing
  have opened : readStep stack opener = .pending (.bracket b opener [] :: stack) := by
    simp [readStep, opens]
  have closed : readStep (.bracket b opener items.reverse :: stack) closer = supply f stack := by
    simp [readStep, closing, closes]
  calc run stack (opener :: (inner ++ [closer]) ++ rest)
      = run stack (opener :: (inner ++ closer :: rest)) := by simp
    _ = run (.bracket b opener [] :: stack) (inner ++ closer :: rest) := by
        rw [goes.step (by simp [opens]), opened, goes.pending]
    _ = run (.bracket b opener items.reverse :: stack) (closer :: rest) :=
        reads between opener (closer :: rest)
    _ = next rest (supply f stack) := by
        rw [goes.step (by simp [closing]), closed]

mutual

/-- A run over the tokens of a derivation comes to handing its form to the innermost open construct. -/
theorem GoesBySteps.derivation (goes : GoesBySteps run next) : ∀ (d : Derivation)
    {tokens : List Token}, tokens.map Token.kind = d.kinds → ∀ (stack : List Pending)
      (rest : List Token), run stack (tokens ++ rest) = next rest (supply d.form stack)
  | leaf l, tokens, same, stack, rest => by
      obtain ⟨t, none, rfl, kind, nothing⟩ := List.map_eq_cons_iff.1 (same.trans (by rw [kinds]))
      obtain rfl := List.map_eq_nil_iff.1 nothing
      have inner : t.kind ≠ .finish := by
        rw [kind]
        cases l <;> simp [Leaf.kind]
      rw [List.singleton_append, goes.step inner, readStep_leaf kind, form]
  | list items, tokens, same, stack, rest => by
      rw [form]
      exact goes.bracket (same.trans (by rw [kinds])) (fun _ => rfl) fun between opener rest => by
        simpa using goes.items items between .round opener [] stack rest
  | vector items, tokens, same, stack, rest => by
      rw [form]
      exact goes.bracket (same.trans (by rw [kinds])) (fun _ => rfl) fun between opener rest => by
        simpa using goes.items items between .square opener [] stack rest
  | table entries, tokens, same, stack, rest => by
      rw [form]
      have closes (opener : Token) :
          closeBracket .curly opener (formsPairs entries) = .ok (.table (formsPairs entries)) :=
        if_pos (length_formsPairs entries)
      exact goes.bracket (same.trans (by rw [kinds])) closes fun between opener rest => by
        simpa using goes.pairs entries between .curly opener [] stack rest
  | marked m inner, tokens, same, stack, rest => by
      obtain ⟨t, more, rfl, kind, others⟩ := List.map_eq_cons_iff.1 (same.trans (by rw [kinds]))
      have waits : readStep stack t = .pending (.mark m t :: stack) := by simp [readStep, kind]
      rw [List.cons_append, goes.step (by simp [kind]), waits, goes.pending,
        goes.derivation inner others, supply, form]

/-- The forms of several derivations are added to the innermost bracket. -/
theorem GoesBySteps.items (goes : GoesBySteps run next) : ∀ (ds : List Derivation)
    {tokens : List Token}, tokens.map Token.kind = kindsAll ds → ∀ (b : Bracket) (opener : Token)
      (items : List Form) (stack : List Pending) (rest : List Token),
      run (.bracket b opener items :: stack) (tokens ++ rest) =
        run (.bracket b opener ((forms ds).reverse ++ items) :: stack) rest
  | [], tokens, same, b, opener, items, stack, rest => by
      obtain rfl := List.map_eq_nil_iff.1 (same.trans (by rw [kindsAll]))
      simp [forms]
  | d :: ds, tokens, same, b, opener, items, stack, rest => by
      obtain ⟨first, others, rfl, one, more⟩ :=
        List.map_eq_append_iff.1 (same.trans (by rw [kindsAll]))
      rw [List.append_assoc, goes.derivation d one, supply, goes.pending, goes.items ds more, forms]
      simp

/-- The forms of pairs of derivations are added to the innermost bracket. -/
theorem GoesBySteps.pairs (goes : GoesBySteps run next) : ∀ (entries : List (Derivation × Derivation))
    {tokens : List Token}, tokens.map Token.kind = kindsPairs entries → ∀ (b : Bracket)
      (opener : Token) (items : List Form) (stack : List Pending) (rest : List Token),
      run (.bracket b opener items :: stack) (tokens ++ rest) =
        run (.bracket b opener ((formsPairs entries).reverse ++ items) :: stack) rest
  | [], tokens, same, b, opener, items, stack, rest => by
      obtain rfl := List.map_eq_nil_iff.1 (same.trans (by rw [kindsPairs]))
      simp [formsPairs]
  | (key, value) :: entries, tokens, same, b, opener, items, stack, rest => by
      obtain ⟨first, others, rfl, one, more⟩ :=
        List.map_eq_append_iff.1 (same.trans (by rw [kindsPairs]))
      obtain ⟨second, others, rfl, two, more⟩ := List.map_eq_append_iff.1 more
      rw [List.append_assoc, goes.derivation key one, supply, goes.pending, List.append_assoc,
        goes.derivation value two, supply, goes.pending, goes.pairs entries more, formsPairs]
      simp

end

end

/-- The reader after one of its steps, with the tokens that follow. -/
def proceed (done : List Form) (rest : List Token) : ReadStep → Except Error (List Form)
  | .form f => readForms (f :: done) [] rest
  | .pending stack => readForms done stack rest
  | .fail e => .error e

theorem readForms_cons {done : List Form} {stack : List Pending} {t : Token} {rest : List Token}
    (inner : t.kind ≠ .finish) :
    readForms done stack (t :: rest) = proceed done rest (readStep stack t) := by
  rw [readForms]
  · rfl
  · intro finish _
    exact inner finish

theorem goesBySteps_readForms (done : List Form) : GoesBySteps (readForms done) (proceed done) :=
  ⟨readForms_cons, fun _ _ => rfl⟩

/-- Several derivations on the top level are read one after the other. -/
theorem readForms_derivations {last : Token} (ends : last.kind = .finish) :
    ∀ (ds : List Derivation) {tokens : List Token}, tokens.map Token.kind = kindsAll ds →
      ∀ done : List Form,
        readForms done [] (tokens ++ [last]) = .ok (done.reverse ++ forms ds)
  | [], tokens, same, done => by
      obtain rfl := List.map_eq_nil_iff.1 (same.trans (by rw [kindsAll]))
      simp [readForms, ends, forms]
  | d :: ds, tokens, same, done => by
      obtain ⟨first, others, rfl, one, more⟩ :=
        List.map_eq_append_iff.1 (same.trans (by rw [kindsAll]))
      rw [List.append_assoc, (goesBySteps_readForms done).derivation d one, supply, proceed,
        readForms_derivations ends ds more, forms]
      simp

/-! ### What is read is derived -/

/-- The tokens of the constructs that are open: a stack stands for the tokens read since the last form
    of the top level was complete. -/
inductive Covers : List Pending → List TokenKind → Prop where
  | nil : Covers [] []
  | mark {stack : List Pending} {ks : List TokenKind} (m : Mark) (token : Token)
      (outer : Covers stack ks) : Covers (.mark m token :: stack) (ks ++ [.mark m])
  | bracket {stack : List Pending} {ks : List TokenKind} (b : Bracket) (opener : Token)
      (items : List Derivation) (outer : Covers stack ks) :
      Covers (.bracket b opener (forms items).reverse :: stack) (ks ++ .opening b :: kindsAll items)

/-- What a step of the reader makes of the tokens up to it: a form is derived from them, or the stack
    stands for them. -/
def ReadStep.Reads (ks : List TokenKind) : ReadStep → Prop
  | .form f => ∃ d : Derivation, d.kinds = ks ∧ d.form = f
  | .pending stack => Covers stack ks
  | .fail _ => True

section

variable {stack : List Pending} {ks : List TokenKind}

/-- Handing a derived form to the innermost open construct. -/
theorem Covers.supply (covers : Covers stack ks) (d : Derivation) :
    (supply d.form stack).Reads (ks ++ d.kinds) := by
  induction covers generalizing d with
  | nil => exact ⟨d, rfl, rfl⟩
  | mark m token outer ih =>
      have wrapped := ih (marked m d)
      rw [form, kinds] at wrapped
      simpa [PluginLisp.supply] using wrapped
  | bracket b opener items outer ih =>
      have longer := Covers.bracket b opener (items ++ [d]) outer
      simpa [PluginLisp.supply, ReadStep.Reads, forms, kindsAll] using longer

/-- The form of a bracket that is closed has a derivation. -/
theorem closeBracket_derived {b : Bracket} {opener : Token} {items : List Derivation} {f : Form}
    (closes : closeBracket b opener (forms items) = .ok f) :
    ∃ d : Derivation, d.form = f ∧ d.kinds = .opening b :: (kindsAll items ++ [.closing b]) := by
  cases b with
  | round =>
      cases closes
      exact ⟨list items, by rw [form], by rw [kinds]⟩
  | square =>
      cases closes
      exact ⟨vector items, by rw [form], by rw [kinds]⟩
  | curly =>
      simp only [closeBracket] at closes
      split at closes
      · rename_i even
        cases closes
        rw [length_forms] at even
        obtain ⟨entries, sameKinds, sameForms⟩ := exists_pairs items even
        exact ⟨table entries, by rw [form, sameForms], by rw [kinds, sameKinds]⟩
      · cases closes

/-- One more token: what the reader makes of it is derived from the tokens up to it. -/
theorem Covers.readStep (covers : Covers stack ks) (t : Token) :
    (readStep stack t).Reads (ks ++ [t.kind]) := by
  rcases t.kind.leaf_or_other with ⟨l, kind⟩ | ⟨b, kind⟩ | ⟨b, kind⟩ | ⟨m, kind⟩ | kind
  · have supplied := covers.supply (leaf l)
    rw [form, kinds] at supplied
    rw [readStep_leaf kind, kind]
    exact supplied
  · have opened := Covers.bracket b t [] covers
    simpa [PluginLisp.readStep, kind, ReadStep.Reads, forms, kindsAll] using opened
  · cases covers with
    | nil => simp [PluginLisp.readStep, kind, ReadStep.Reads]
    | mark m token outer => simp [PluginLisp.readStep, kind, ReadStep.Reads]
    | bracket b' opener items outer =>
        simp only [PluginLisp.readStep, kind, List.reverse_reverse]
        split
        · rename_i sameKind
          subst sameKind
          cases closes : closeBracket b opener (forms items) with
          | error e => trivial
          | ok f =>
              obtain ⟨d, rfl, kindsAre⟩ := closeBracket_derived closes
              have supplied := outer.supply d
              rw [kindsAre] at supplied
              simpa using supplied
        · trivial
  · have waits := Covers.mark m t covers
    simpa [PluginLisp.readStep, kind, ReadStep.Reads] using waits
  · simp [PluginLisp.readStep, kind, ReadStep.Reads]

/-- A whole run: the forms that are read have derivations, which use all tokens up to the end. -/
theorem Covers.readForms {last : Token} (ends : last.kind = .finish) {tokens : List Token}
    (inner : ∀ t ∈ tokens, t.kind ≠ .finish) (covers : Covers stack ks) {done : List Derivation}
    {result : List Form}
    (reads : readForms (forms done).reverse stack (tokens ++ [last]) = .ok result) :
    ∃ ds, kindsAll ds = kindsAll done ++ ks ++ tokens.map Token.kind ∧ forms ds = result := by
  induction tokens generalizing stack ks done with
  | nil =>
      cases covers with
      | nil =>
          simp [PluginLisp.readForms, ends] at reads
          exact ⟨done, by simp, reads⟩
      | mark m token outer =>
          simp [PluginLisp.readForms, PluginLisp.readStep, ends] at reads
      | bracket b opener items outer =>
          simp [PluginLisp.readForms, PluginLisp.readStep, ends] at reads
  | cons t rest ih =>
      rw [List.cons_append, readForms_cons (inner t List.mem_cons_self)] at reads
      have step := covers.readStep t
      have innerRest := fun t' member => inner t' (List.mem_cons_of_mem t member)
      cases stepped : PluginLisp.readStep stack t with
      | form f =>
          rw [stepped] at reads step
          obtain ⟨d, kindsAre, rfl⟩ := step
          have longer : d.form :: (forms done).reverse = (forms (done ++ [d])).reverse := by
            simp [forms]
          rw [proceed, longer] at reads
          obtain ⟨ds, uses, gives⟩ := ih innerRest .nil reads
          exact ⟨ds, by simp [uses, kindsAll, kindsAre], gives⟩
      | pending stack' =>
          rw [stepped] at reads step
          obtain ⟨ds, uses, gives⟩ := ih innerRest step reads
          exact ⟨ds, by simp [uses], gives⟩
      | fail e =>
          rw [stepped] at reads
          cases reads

end

/-- The reader accepts exactly the grammar: it answers with forms if and only if the tokens before the
    end have a derivation of these forms, and tokens have no more than one derivation. -/
theorem readAll_eq_ok_iff_derivation {tokens : List Token} {last : Token}
    (ends : last.kind = .finish) (inner : ∀ t ∈ tokens, t.kind ≠ .finish) :
    (∀ result, readAll (tokens ++ [last]) = .ok result ↔
        ∃ ds, kindsAll ds = tokens.map Token.kind ∧ forms ds = result) ∧
      ∀ ds ds', kindsAll ds = tokens.map Token.kind → kindsAll ds' = tokens.map Token.kind →
        ds = ds' := by
  refine ⟨fun result => ⟨fun reads => ?_, ?_⟩, fun ds ds' uses uses' => ?_⟩
  · have fromStart : readForms (forms []).reverse [] (tokens ++ [last]) = .ok result := reads
    obtain ⟨ds, uses, gives⟩ := Covers.readForms ends inner .nil fromStart
    exact ⟨ds, by simpa [kindsAll] using uses, gives⟩
  · rintro ⟨ds, uses, rfl⟩
    simpa [readAll] using readForms_derivations ends ds uses.symm []
  · exact kindsAll_injective (uses.trans uses'.symm)

/-- A mark inside curly brackets counts as one form of a pair together with what it applies to. -/
theorem readAll_marked_key :
    readAll ([⟨.opening .curly, "\x7b", ⟨1, 1⟩⟩, ⟨.mark .quote, "\x27", ⟨1, 2⟩⟩,
        ⟨.symbol "a", "a", ⟨1, 3⟩⟩, ⟨.opening .square, "[", ⟨1, 5⟩⟩, ⟨.closing .square, "]", ⟨1, 6⟩⟩,
        ⟨.closing .curly, "\x7d", ⟨1, 7⟩⟩] ++ [⟨.finish, "", ⟨1, 8⟩⟩]) =
      .ok [.table [.list [.symbol "quote", .symbol "a"], .vector []]] :=
  ((readAll_eq_ok_iff_derivation rfl (by simp)).1 _).2
    ⟨[.table [(.marked .quote (.leaf (.symbol "a")), .vector [])]],
      by simp [kindsAll, kinds, kindsPairs, Leaf.kind],
      by simp [forms, form, formsPairs, Leaf.form, Mark.symbol]⟩

end PluginLisp
