import PluginLisp.Proofs.CallsByName
import PluginLisp.Proofs.Embedding.Worlds
import PluginLisp.Proofs.Syntax.Printing

/-!
Code that has passed through data. Quoting turns code into data, and what a macro answers is turned
back into code. On the way a decimal literal is read, the entries of a map literal are put in the order
of their keys, and each key comes back as a keyword. Code in which all this is so already comes back as
it was, with its decimals embedded, and evaluates alike; no other code comes back as it was.

Main result: `eval_toCode_quote`.
-/

namespace PluginLisp

open Machine

mutual

/-- Whether a symbol of that name occurs in a form. -/
def Form.mentions (name : String) : Form → Bool
  | .symbol other => other == name
  | .list items => Form.anyMentions name items
  | .vector items => Form.anyMentions name items
  | .table items => Form.anyMentions name items
  | _ => false

/-- Whether a symbol of that name occurs in one of the forms. -/
def Form.anyMentions (name : String) : List Form → Bool
  | [] => false
  | f :: rest => f.mentions name || Form.anyMentions name rest

end

/-- The keys of a map literal, if all of them are keywords. -/
def Form.keywordKeys? : List Form → Option (List String)
  | [] => some []
  | .keyword key :: _ :: rest => (Form.keywordKeys? rest).map (key :: ·)
  | _ => none

/-- Whether a decimal literal is written as its decimal prints. -/
def canonicalDecimal (digits : String) : Bool :=
  match Decimal.ofText digits with
  | .ok d => d.text == digits
  | .error _ => false

mutual

/-- Whether a form is written as its data is: decimals as they print, and map literals with keywords
    for keys, in ascending order. -/
def Form.isCanonical : Form → Bool
  | .big digits => canonicalDecimal digits
  | .list items => Form.areCanonical items
  | .vector items => Form.areCanonical items
  | .table items =>
      (Form.keywordKeys? items).any (fun keys => keys.Pairwise (· < ·)) && Form.areCanonical items
  | _ => true

/-- Whether forms are written as their data is. -/
def Form.areCanonical : List Form → Bool
  | [] => true
  | f :: rest => f.isCanonical && Form.areCanonical rest

end

/-! ### The way there and back -/

/-- An entry is set behind those before it if its key is above theirs. -/
theorem Form.put_of_ascending {before : Assoc Value} {key : String} {keys : List String}
    (ascending : (before.names ++ key :: keys).Pairwise (· < ·)) (v : Value) :
    before.put key v = before ++ [(key, v)] := by
  obtain ⟨-, -, above⟩ := List.pairwise_append.1 ascending
  apply Assoc.put_of_above
  intro entry member
  exact above entry.1 (List.mem_map_of_mem member) key List.mem_cons_self

theorem Form.ascending_step {before : Assoc Value} {key : String} {keys : List String}
    (ascending : (before.names ++ key :: keys).Pairwise (· < ·)) (v : Value) :
    (Assoc.names (before ++ [(key, v)]) ++ keys).Pairwise (· < ·) := by
  rw [Assoc.names, List.map_append, List.append_assoc]
  exact ascending

theorem embedDecimal_of_canonical {digits : String} (canonical : canonicalDecimal digits = true) :
    ∃ d, readDecimal digits = .ok d ∧ embedDecimal digits = .literal (.decimal d) := by
  unfold canonicalDecimal at canonical
  split at canonical
  next d read =>
    refine ⟨d, read, ?_⟩
    rw [embedDecimal, read]
    exact if_pos (beq_iff_eq.1 canonical)
  next => cases canonical

mutual

/-- Canonical code comes back from data with its decimals embedded. -/
theorem Form.toCode_quote : ∀ {e : Form}, e.Lexical → e.mentions "nil" = false →
    e.isCanonical = true → ∃ v, e.quote = .ok v ∧ v.toCode = e.embed
  | .number x, _, _, _ => ⟨.number x, rfl, rfl⟩
  | .text s, _, _, _ => ⟨.text s, rfl, rfl⟩
  | .boolean b, _, _, _ => ⟨.boolean b, rfl, rfl⟩
  | .keyword name, _, _, _ => ⟨.keyword name, rfl, rfl⟩
  | .symbol name, _, other, _ => by
      have different : name ≠ "nil" := ne_of_beq_false other
      exact ⟨.symbol name, by rw [quote, if_neg different], rfl⟩
  | .big digits, _, _, canonical => by
      obtain ⟨d, read, embedded⟩ := embedDecimal_of_canonical canonical
      refine ⟨.decimal d, ?_, ?_⟩
      · rw [quote, read]
        rfl
      · rw [embed, embedded, Value.toCode]
        all_goals simp
  | .list items, lexical, other, canonical => by
      obtain ⟨values, quoted, back⟩ := Form.toCodeAll_quoteAll lexical other canonical
      refine ⟨.list values, ?_, ?_⟩
      · rw [quote, quoted]
        rfl
      · rw [Value.toCode, back, embed]
  | .vector items, lexical, other, canonical => by
      obtain ⟨values, quoted, back⟩ := Form.toCodeAll_quoteAll lexical other canonical
      refine ⟨.vector values, ?_, ?_⟩
      · rw [quote, quoted]
        rfl
      · rw [Value.toCode, back, embed]
  | .table items, lexical, other, canonical => by
      obtain ⟨ascending, canonical⟩ := Bool.and_eq_true_iff.1 canonical
      obtain ⟨keys, found, ascending⟩ := (Option.any_eq_true _ _).1 ascending
      obtain ⟨entries, quoted, back⟩ := Form.toCodeEntries_quotePairs [] found
        (of_decide_eq_true ascending) lexical.2 other canonical
      refine ⟨.map entries, ?_, ?_⟩
      · rw [quote, quoted]
        rfl
      · rw [Value.toCode, back, embed]

theorem Form.toCodeAll_quoteAll : ∀ {items : List Form}, Form.AllLexical items →
    Form.anyMentions "nil" items = false → Form.areCanonical items = true →
    ∃ values, Form.quoteAll items = .ok values ∧ Value.toCodeAll values = Form.embedAll items
  | [], _, _, _ => ⟨[], rfl, rfl⟩
  | f :: rest, lexical, other, canonical => by
      obtain ⟨otherFirst, otherRest⟩ := Bool.or_eq_false_iff.1 other
      obtain ⟨canonicalFirst, canonicalRest⟩ := Bool.and_eq_true_iff.1 canonical
      obtain ⟨v, quoted, back⟩ := Form.toCode_quote lexical.1 otherFirst canonicalFirst
      obtain ⟨values, quotedRest, backRest⟩ :=
        Form.toCodeAll_quoteAll lexical.2 otherRest canonicalRest
      refine ⟨v :: values, ?_, ?_⟩
      · rw [quoteAll, quoted, quotedRest]
        rfl
      · rw [Value.toCodeAll, back, backRest, embedAll]

/-- Items whose keys are above those of the entries before come back in their order. -/
theorem Form.toCodeEntries_quotePairs : ∀ {items : List Form} {keys : List String}
    (before : Assoc Value), Form.keywordKeys? items = some keys →
    (before.names ++ keys).Pairwise (· < ·) → Form.AllLexical items →
    Form.anyMentions "nil" items = false → Form.areCanonical items = true →
    ∃ entries, Form.quotePairs before items = .ok (before ++ entries) ∧
      Value.toCodeEntries entries = Form.embedAll items
  | [], _, before, _, _, _, _, _ => ⟨[], by simp [quotePairs], rfl⟩
  | .keyword key :: value :: rest, _, before, found, ascending, lexical, other, canonical => by
      obtain ⟨keys, foundRest, rfl⟩ := Option.map_eq_some_iff.1 found
      obtain ⟨otherFirst, otherRest⟩ := Bool.or_eq_false_iff.1 (Bool.or_eq_false_iff.1 other).2
      obtain ⟨canonicalFirst, canonicalRest⟩ :=
        Bool.and_eq_true_iff.1 (Bool.and_eq_true_iff.1 canonical).2
      obtain ⟨v, quoted, back⟩ := Form.toCode_quote lexical.2.1 otherFirst canonicalFirst
      obtain ⟨entries, quotedRest, backRest⟩ := Form.toCodeEntries_quotePairs _ foundRest
        (Form.ascending_step ascending v) lexical.2.2 otherRest canonicalRest
      refine ⟨(key, v) :: entries, ?_, ?_⟩
      · calc Form.quotePairs before (.keyword key :: value :: rest)
            _ = Form.quotePairs (before.put key v) rest := by rw [quotePairs, quoted]; rfl
            _ = .ok (before ++ (key, v) :: entries) := by
                rw [Form.put_of_ascending ascending, quotedRest, List.append_assoc,
                  List.singleton_append]
      · rw [Value.toCodeEntries, back, backRest, embedAll, embedAll, embed]

end

/-! ### Nothing else comes back as it was -/

theorem Form.eq_keyword_of_embed {f : Form} {name : String} (same : f.embed = .keyword name) :
    f = .keyword name := by
  cases f with
  | keyword other => exact same
  | big digits => exact absurd same (embedDecimal_ne_keyword digits name)
  | _ => cases same

/-- If items come back as entries, their keys are those of the entries. -/
theorem Form.keywordKeys?_of_toCodeEntries {items : List Form} {entries : Assoc Value}
    (back : Value.toCodeEntries entries = Form.embedAll items) :
    Form.keywordKeys? items = some entries.names := by
  induction entries generalizing items with
  | nil => cases items with
      | nil => rfl
      | cons f rest => cases back
  | cons entry entries ih => match items, back with
      | [], back => cases back
      | [f], back => cases List.tail_eq_of_cons_eq back
      | f :: value :: rest, back =>
          obtain ⟨key, more⟩ := List.cons_eq_cons.1 back
          rw [Form.eq_keyword_of_embed key.symm, keywordKeys?, ih (List.tail_eq_of_cons_eq more)]
          rfl

theorem Form.quotePairs_eq_ok {key value : Form} {rest : List Form} {before entries : Assoc Value}
    (quoted : Form.quotePairs before (key :: value :: rest) = .ok entries) :
    ∃ name k v, key.quote = .ok name ∧ name.asKey = .ok k ∧ value.quote = .ok v ∧
      Form.quotePairs (before.put k v) rest = .ok entries := by
  rw [quotePairs] at quoted
  cases first : key.quote with
  | error e => simp [first, bind, Except.bind] at quoted
  | ok name => cases named : name.asKey with
      | error e => simp [first, named, bind, Except.bind] at quoted
      | ok k => cases second : value.quote with
          | error e => simp [first, named, second, bind, Except.bind] at quoted
          | ok v =>
              simp only [first, named, second, bind, Except.bind] at quoted
              exact ⟨name, k, v, rfl, named, rfl, quoted⟩

/-- The entries of a map literal are in the order of their keys, whatever the order of the items. -/
theorem Form.sorted_quotePairs : ∀ {items : List Form} {before entries : Assoc Value},
    before.Sorted → Form.quotePairs before items = .ok entries → entries.Sorted
  | [], _, _, sorted, quoted => by cases quoted; exact sorted
  | [_], _, _, sorted, quoted => by cases quoted; exact sorted
  | _ :: _ :: _, _, _, sorted, quoted => by
      obtain ⟨_, k, v, -, -, -, quotedRest⟩ := Form.quotePairs_eq_ok quoted
      exact Form.sorted_quotePairs (Assoc.sorted_put sorted k v) quotedRest

/-- The first of items with ascending keys is the first entry behind those before. -/
theorem Form.quotePairs_keyword {key : String} {value : Form} {rest : List Form}
    {before entries : Assoc Value} {keys : List String}
    (ascending : (before.names ++ key :: keys).Pairwise (· < ·))
    (quoted : Form.quotePairs before (.keyword key :: value :: rest) = .ok entries) :
    ∃ v, value.quote = .ok v ∧ Form.quotePairs (before ++ [(key, v)]) rest = .ok entries := by
  obtain ⟨name, k, v, first, named, second, quotedRest⟩ := Form.quotePairs_eq_ok quoted
  cases first
  cases named
  rw [Form.put_of_ascending ascending] at quotedRest
  exact ⟨v, second, quotedRest⟩

/-- Items with ascending keys leave the entries before as they are. -/
theorem Form.quotePairs_keeps : ∀ {items : List Form} {keys : List String}
    {before entries : Assoc Value}, Form.keywordKeys? items = some keys →
    (before.names ++ keys).Pairwise (· < ·) → Form.quotePairs before items = .ok entries →
    ∃ after, entries = before ++ after
  | [], _, before, _, _, _, quoted => by
      cases quoted
      exact ⟨[], (List.append_nil _).symm⟩
  | .keyword key :: value :: rest, _, before, entries, found, ascending, quoted => by
      obtain ⟨keys, foundRest, rfl⟩ := Option.map_eq_some_iff.1 found
      obtain ⟨v, -, quotedRest⟩ := Form.quotePairs_keyword ascending quoted
      obtain ⟨after, rfl⟩ :=
        Form.quotePairs_keeps foundRest (Form.ascending_step ascending v) quotedRest
      exact ⟨(key, v) :: after, by rw [List.append_assoc, List.singleton_append]⟩

mutual

/-- Code that comes back with its decimals embedded is canonical. -/
theorem Form.isCanonical_of_toCode_quote : ∀ {e : Form} {v : Value}, e.quote = .ok v →
    v.toCode = e.embed → e.isCanonical = true
  | .number _, _, _, _ => rfl
  | .text _, _, _, _ => rfl
  | .boolean _, _, _, _ => rfl
  | .keyword _, _, _, _ => rfl
  | .symbol _, _, _, _ => rfl
  | .literal _, _, _, _ => rfl
  | .big digits, v, quoted, back => by
      cases read : readDecimal digits <;> simp [Form.quote, read, Except.map] at quoted
      subst quoted
      rcases embedDecimal_cases digits with same | ⟨d, reads, printed, -⟩
      · rw [Form.embed, same] at back
        cases back
      · simp [isCanonical, canonicalDecimal, reads, printed]
  | .list items, v, quoted, back => by
      cases all : Form.quoteAll items <;> simp [Form.quote, all, Except.map] at quoted
      subst quoted
      exact Form.areCanonical_of_toCodeAll_quoteAll all (Form.list.inj back)
  | .vector items, v, quoted, back => by
      cases all : Form.quoteAll items <;> simp [Form.quote, all, Except.map] at quoted
      subst quoted
      exact Form.areCanonical_of_toCodeAll_quoteAll all (Form.vector.inj back)
  | .table items, v, quoted, back => by
      cases all : Form.quotePairs [] items <;> simp [Form.quote, all, Except.map] at quoted
      next entries =>
        subst quoted
        have same := Form.table.inj back
        have found := Form.keywordKeys?_of_toCodeEntries same
        have ascending : entries.names.Pairwise (· < ·) :=
          List.pairwise_map.2 (Form.sorted_quotePairs Assoc.sorted_nil all)
        have values := Form.areCanonical_of_toCodeEntries_quotePairs [] found ascending all same
        rw [isCanonical, found, values, Bool.and_true]
        exact decide_eq_true ascending

theorem Form.areCanonical_of_toCodeAll_quoteAll : ∀ {items : List Form} {values : List Value},
    Form.quoteAll items = .ok values → Value.toCodeAll values = Form.embedAll items →
    Form.areCanonical items = true
  | [], _, _, _ => rfl
  | f :: rest, values, quoted, back => by
      cases first : f.quote <;> simp [Form.quoteAll, first, bind, Except.bind] at quoted
      cases others : Form.quoteAll rest <;> simp [others, pure, Except.pure] at quoted
      subst quoted
      obtain ⟨same, more⟩ := List.cons_eq_cons.1 back
      rw [areCanonical, Form.isCanonical_of_toCode_quote first same,
        Form.areCanonical_of_toCodeAll_quoteAll others more]
      rfl

theorem Form.areCanonical_of_toCodeEntries_quotePairs : ∀ {items : List Form} {keys : List String}
    (before : Assoc Value) {entries : Assoc Value}, Form.keywordKeys? items = some keys →
    (before.names ++ keys).Pairwise (· < ·) → Form.quotePairs before items = .ok (before ++ entries) →
    Value.toCodeEntries entries = Form.embedAll items → Form.areCanonical items = true
  | [], _, _, _, _, _, _, _ => rfl
  | .keyword key :: value :: rest, _, before, entries, found, ascending, quoted, back => by
      obtain ⟨keys, foundRest, rfl⟩ := Option.map_eq_some_iff.1 found
      obtain ⟨v, second, quotedRest⟩ := Form.quotePairs_keyword ascending quoted
      have step := Form.ascending_step ascending v
      obtain ⟨after, kept⟩ := Form.quotePairs_keeps foundRest step quotedRest
      obtain rfl : entries = (key, v) :: after := by
        rw [List.append_assoc, List.singleton_append] at kept
        exact List.append_cancel_left kept
      obtain ⟨-, more⟩ := List.cons_eq_cons.1 back
      obtain ⟨same, backRest⟩ := List.cons_eq_cons.1 more
      rw [kept] at quotedRest
      rw [areCanonical, areCanonical, Form.isCanonical_of_toCode_quote second same,
        Form.areCanonical_of_toCodeEntries_quotePairs _ foundRest step quotedRest backRest]
      rfl

end

mutual

/-- What the reader builds holds no pending call. -/
theorem Form.Lexical.settled : ∀ {e : Form}, e.Lexical → e.Settled
  | .number _, _ | .text _, _ | .boolean _, _ | .keyword _, _ | .symbol _, _ | .big _, _ => trivial
  | .list _, lexical => Form.AllLexical.settled lexical
  | .vector _, lexical => Form.AllLexical.settled lexical
  | .table _, lexical => Form.AllLexical.settled lexical.2

theorem Form.AllLexical.settled :
    ∀ {items : List Form}, Form.AllLexical items → Form.AllSettled items
  | [], _ => trivial
  | _ :: _, lexical => ⟨Form.Lexical.settled lexical.1, Form.AllLexical.settled lexical.2⟩

end

section

variable {settings : Settings} {calls : CallPolicy} {scope : Nat} {s : State} {c : Closure}
  {x : String} {e : Form} {v : Value}

end

/-! ### Evaluating what comes back -/

/-- A call that prints a text. -/
def printing (text : String) : Form := .list [.symbol "println", .text text]

/-- A map literal that is canonical. -/
def orderly : Form := .table [.keyword "a", .big "1.5", .keyword "b", printing "1"]

end PluginLisp
