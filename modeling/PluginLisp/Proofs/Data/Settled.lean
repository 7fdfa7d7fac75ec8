import PluginLisp.Machine.State
import PluginLisp.Proofs.Data.Entries
import PluginLisp.Syntax.Read
import PluginLisp.Value.Code

/-!
Data without pending calls. A call in tail position that is still to be made is a value, but never data:
it must not occur in a collection, in a combinator, in the code of a closure or in the store. `Settled`
says so of forms, closures and values to any depth, and of a whole state. The lemmas here are about
data alone: reading code, quoting it and turning data into code keep it settled, and so do the
operations on sorted entries and the look-ups in scopes.

Main results: `Form.quote_settled`, `Value.toCode_settled`, `parse_settled`.
-/

namespace PluginLisp

mutual

/-- No pending call occurs in a form. -/
def Form.Settled : Form → Prop
  | .list items => Form.AllSettled items
  | .vector items => Form.AllSettled items
  | .table items => Form.AllSettled items
  | .literal v => v.Settled
  | _ => True

/-- No pending call occurs in any of the forms. -/
def Form.AllSettled : List Form → Prop
  | [] => True
  | f :: rest => f.Settled ∧ Form.AllSettled rest

/-- No pending call occurs in the code of a closure. -/
def Closure.Settled : Closure → Prop
  | ⟨_, _, _, _, body, _⟩ => Form.AllSettled body

/-- A value neither is a pending call nor holds one. -/
def Value.Settled : Value → Prop
  | .list items => Value.AllSettled items
  | .vector items => Value.AllSettled items
  | .map entries => Value.EntriesSettled entries
  | .function c => c.Settled
  | .transformer c => c.Settled
  | .partialCall f bound => f.Settled ∧ Value.AllSettled bound
  | .complement f => f.Settled
  | .juxt fs => Value.AllSettled fs
  | .comp fs => Value.AllSettled fs
  | .pending _ _ => False
  | _ => True

/-- All of the values are settled. -/
def Value.AllSettled : List Value → Prop
  | [] => True
  | v :: rest => v.Settled ∧ Value.AllSettled rest

/-- The values of all entries are settled. -/
def Value.EntriesSettled : List (String × Value) → Prop
  | [] => True
  | (_, v) :: rest => v.Settled ∧ Value.EntriesSettled rest

end

/-- What evaluation in tail position may come to: a settled value, or a pending call whose closure and
    arguments are settled. -/
def Value.TailSettled (v : Value) : Prop :=
  v.Settled ∨ ∃ c args, v = .pending c args ∧ c.Settled ∧ Value.AllSettled args

/-! ### Lists and entries -/

/-- A list of forms is settled if each form is. -/
theorem Form.allSettled_iff {forms : List Form} :
    Form.AllSettled forms ↔ ∀ f ∈ forms, f.Settled := by
  induction forms with
  | nil => simp [Form.AllSettled]
  | cons f rest ih => simp [Form.AllSettled, ih]

/-- A list of values is settled if each value is. -/
theorem Value.allSettled_iff {values : List Value} :
    Value.AllSettled values ↔ ∀ v ∈ values, v.Settled := by
  induction values with
  | nil => simp [Value.AllSettled]
  | cons v rest ih => simp [Value.AllSettled, ih]

/-- Entries are settled if each value is. -/
theorem Value.entriesSettled_iff {entries : List (String × Value)} :
    Value.EntriesSettled entries ↔ ∀ entry ∈ entries, entry.2.Settled := by
  induction entries with
  | nil => simp [Value.EntriesSettled]
  | cons entry rest ih => simp [Value.EntriesSettled, ih]

@[simp] theorem Closure.settled_iff {c : Closure} : c.Settled ↔ Form.AllSettled c.body := by
  cases c
  simp [Closure.Settled]

/-- A part of a settled list is settled. -/
theorem Value.AllSettled.of_subset {some all : List Value} (settled : Value.AllSettled all)
    (part : ∀ v ∈ some, v ∈ all) : Value.AllSettled some :=
  Value.allSettled_iff.2 fun v member => Value.allSettled_iff.1 settled v (part v member)

/-- Two lists of values in a row are settled if both are. -/
@[simp] theorem Value.allSettled_append {left right : List Value} :
    Value.AllSettled (left ++ right) ↔ Value.AllSettled left ∧ Value.AllSettled right := by
  simp [Value.allSettled_iff, or_imp, forall_and]

@[simp] theorem Form.allSettled_append {left right : List Form} :
    Form.AllSettled (left ++ right) ↔ Form.AllSettled left ∧ Form.AllSettled right := by
  simp [Form.allSettled_iff, or_imp, forall_and]

@[simp] theorem Form.allSettled_reverse {forms : List Form} :
    Form.AllSettled forms.reverse ↔ Form.AllSettled forms := by
  simp [Form.allSettled_iff]

@[simp] theorem Value.allSettled_reverse {values : List Value} :
    Value.AllSettled values.reverse ↔ Value.AllSettled values := by
  simp [Value.allSettled_iff]

/-- Literals of settled values are settled code. -/
theorem Form.allSettled_literals {values : List Value} (settled : Value.AllSettled values) :
    Form.AllSettled (values.map .literal) := by
  induction values with
  | nil => trivial
  | cons v rest ih => exact ⟨settled.1, ih settled.2⟩

/-! ### Sorted entries -/

namespace Value.EntriesSettled

/-- What is found in settled entries is settled. -/
theorem get? {entries : Assoc Value} (settled : Value.EntriesSettled entries) {key : String}
    {v : Value} (found : Assoc.get? key entries = some v) : v.Settled :=
  Value.entriesSettled_iff.1 settled _ (Assoc.get?_mem found)

/-- Putting a settled value keeps entries settled. -/
theorem put {entries : Assoc Value} (settled : Value.EntriesSettled entries) {key : String}
    {v : Value} (settledValue : v.Settled) : Value.EntriesSettled (entries.put key v) := by
  apply Value.entriesSettled_iff.2
  intro entry member
  rcases Assoc.mem_put member with rfl | member
  · exact settledValue
  · exact Value.entriesSettled_iff.1 settled entry member

/-- Removing an entry keeps the others settled. -/
theorem remove {entries : Assoc Value} (settled : Value.EntriesSettled entries) (key : String) :
    Value.EntriesSettled (entries.remove key) :=
  Value.entriesSettled_iff.2 fun entry member =>
    Value.entriesSettled_iff.1 settled entry (Assoc.mem_remove member)

/-- Settled entries laid over settled entries are settled. -/
theorem overlay {first second : Assoc Value} (settledFirst : Value.EntriesSettled first)
    (settledSecond : Value.EntriesSettled second) :
    Value.EntriesSettled (first.overlay second) := by
  apply Value.entriesSettled_iff.2
  intro entry member
  rcases Assoc.mem_overlay member with member | member
  · exact Value.entriesSettled_iff.1 settledFirst entry member
  · exact Value.entriesSettled_iff.1 settledSecond entry member

end Value.EntriesSettled

/-! ### Code as data and data as code -/

mutual

/-- The data that a settled form stands for is settled. -/
theorem Form.quote_settled : ∀ {f : Form} {v : Value}, f.Settled → f.quote = .ok v → v.Settled
  | .number _, _, _, quoted => by cases quoted; trivial
  | .big digits, _, _, quoted => by
      cases read : readDecimal digits <;> simp [Form.quote, read, Except.map] at quoted
      cases quoted
      trivial
  | .text _, _, _, quoted => by cases quoted; trivial
  | .boolean _, _, _, quoted => by cases quoted; trivial
  | .keyword _, _, _, quoted => by cases quoted; trivial
  | .symbol name, _, _, quoted => by
      simp only [Form.quote] at quoted
      cases quoted
      split <;> trivial
  | .list items, _, settled, quoted => by
      cases all : Form.quoteAll items <;> simp [Form.quote, all, Except.map] at quoted
      cases quoted
      exact Form.quoteAll_settled settled all
  | .vector items, _, settled, quoted => by
      cases all : Form.quoteAll items <;> simp [Form.quote, all, Except.map] at quoted
      cases quoted
      exact Form.quoteAll_settled settled all
  | .table items, _, settled, quoted => by
      cases all : Form.quotePairs [] items <;> simp [Form.quote, all, Except.map] at quoted
      cases quoted
      exact Form.quotePairs_settled (show Value.EntriesSettled [] from trivial) settled all
  | .literal _, _, settled, quoted => by cases quoted; exact settled

theorem Form.quoteAll_settled : ∀ {forms : List Form} {values : List Value},
    Form.AllSettled forms → Form.quoteAll forms = .ok values → Value.AllSettled values
  | [], _, _, quoted => by cases quoted; trivial
  | f :: rest, _, settled, quoted => by
      cases first : f.quote <;> simp [Form.quoteAll, first, bind, Except.bind] at quoted
      cases others : Form.quoteAll rest <;> simp [others, pure, Except.pure] at quoted
      cases quoted
      exact ⟨Form.quote_settled settled.1 first, Form.quoteAll_settled settled.2 others⟩

theorem Form.quotePairs_settled : ∀ {forms : List Form} {entries result : Assoc Value},
    Value.EntriesSettled entries → Form.AllSettled forms →
      Form.quotePairs entries forms = .ok result → Value.EntriesSettled result
  | [], _, _, before, _, quoted => by cases quoted; exact before
  | [_], _, _, before, _, quoted => by cases quoted; exact before
  | key :: value :: rest, entries, _, before, settled, quoted => by
      cases first : key.quote <;> simp [Form.quotePairs, first, bind, Except.bind] at quoted
      next name =>
        cases asKey : name.asKey <;> simp [asKey] at quoted
        cases second : value.quote <;> simp [second] at quoted
        exact Form.quotePairs_settled (before.put (Form.quote_settled settled.2.1 second))
          settled.2.2 quoted

end

mutual

/-- The code that stands for a settled value is settled. -/
theorem Value.toCode_settled : ∀ {v : Value}, v.Settled → v.toCode.Settled
  | .nil, _ | .boolean _, _ | .number _, _ | .decimal _, _ | .text _, _ | .keyword _, _
  | .symbol _, _ | .builtin _, _ | .operator _, _ | .atom _, _ | .channel _, _ | .future _, _
  | .waitGroup _, _ => trivial
  | .list _, settled => Value.toCodeAll_settled settled
  | .vector _, settled => Value.toCodeAll_settled settled
  | .map _, settled => Value.toCodeEntries_settled settled
  | .function _, settled | .transformer _, settled | .partialCall _ _, settled
  | .complement _, settled | .juxt _, settled | .comp _, settled => settled

theorem Value.toCodeAll_settled : ∀ {values : List Value},
    Value.AllSettled values → Form.AllSettled (Value.toCodeAll values)
  | [], _ => trivial
  | _ :: _, settled => ⟨Value.toCode_settled settled.1, Value.toCodeAll_settled settled.2⟩

theorem Value.toCodeEntries_settled : ∀ {entries : List (String × Value)},
    Value.EntriesSettled entries → Form.AllSettled (Value.toCodeEntries entries)
  | [], _ => trivial
  | _ :: _, settled =>
      ⟨trivial, Value.toCode_settled settled.1, Value.toCodeEntries_settled settled.2⟩

end

/-! ### Reading -/

/-- The forms that a construct under way has got are settled. -/
def Pending.Settled : Pending → Prop
  | .bracket _ _ items => Form.AllSettled items
  | .mark _ _ => True

/-- One step of the reader comes to settled forms only. -/
def ReadStep.Settled : ReadStep → Prop
  | .form f => f.Settled
  | .pending stack => ∀ construct ∈ stack, construct.Settled
  | .fail _ => True

/-- A settled form supplied to open constructs keeps them settled. -/
theorem supply_settled {f : Form} {stack : List Pending} (settled : f.Settled)
    (open_ : ∀ construct ∈ stack, construct.Settled) : (supply f stack).Settled := by
  induction stack generalizing f with
  | nil => exact settled
  | cons construct rest ih =>
      obtain ⟨first, others⟩ := List.forall_mem_cons.1 open_
      cases construct with
      | mark m token => exact ih ⟨trivial, settled, trivial⟩ others
      | bracket kind opener items => exact List.forall_mem_cons.2 ⟨⟨settled, first⟩, others⟩

/-- What a bracket closes is settled if its items are. -/
theorem closeBracket_settled {kind : Bracket} {opener : Token} {items : List Form} {f : Form}
    (settled : Form.AllSettled items) (closed : closeBracket kind opener items = .ok f) :
    f.Settled := by
  cases kind with
  | round => cases closed; exact settled
  | square => cases closed; exact settled
  | curly =>
      simp only [closeBracket] at closed
      split at closed
      · cases closed; exact settled
      · cases closed

/-- Reading a token keeps the open constructs settled, as no literal holds a pending call. -/
theorem readStep_settled {stack : List Pending} (open_ : ∀ construct ∈ stack, construct.Settled)
    (t : Token) : (readStep stack t).Settled := by
  unfold readStep
  split
  case h_9 kind _ =>
    split
    next kind' opener items rest =>
      obtain ⟨first, others⟩ := List.forall_mem_cons.1 open_
      split
      · split
        next f closed =>
          exact supply_settled (closeBracket_settled (Form.allSettled_reverse.2 first) closed) others
        next => trivial
      · trivial
    next => trivial
  case h_7 => exact List.forall_mem_cons.2 ⟨trivial, open_⟩
  case h_8 => exact List.forall_mem_cons.2 ⟨trivial, open_⟩
  case h_10 => trivial
  all_goals exact supply_settled trivial open_

/-- What has been read is settled: the reader makes no literals. -/
theorem readForms_settled {tokens : List Token} {read forms : List Form} {stack : List Pending}
    (before : Form.AllSettled read) (open_ : ∀ construct ∈ stack, construct.Settled)
    (done : readForms read stack tokens = .ok forms) : Form.AllSettled forms := by
  induction tokens generalizing read stack with
  | nil =>
      simp only [readForms] at done
      split at done
      · cases done; exact Form.allSettled_reverse.2 before
      · cases done
  | cons t rest ih =>
      simp only [readForms] at done
      have next := readStep_settled open_ t
      split at done
      · cases done; exact Form.allSettled_reverse.2 before
      · split at done
        next f step =>
          rw [step] at next
          exact ih (show Form.AllSettled (f :: read) from ⟨next, before⟩) (by simp) done
        next stack' step =>
          rw [step] at next
          exact ih before next done
        next => cases done

/-- Code that was read is settled. -/
theorem parse_settled {source : String} {forms : List Form} (done : parse source = .ok forms) :
    Form.AllSettled forms := by
  cases scanned : scan source with
  | error e => simp [parse, scanned, bind, Except.bind] at done
  | ok tokens =>
      simp only [parse, scanned, bind, Except.bind] at done
      exact readForms_settled (show Form.AllSettled [] from trivial) (by simp) done

/-! ### The store -/

/-- The values that a scope binds, itself or in modules, are settled. -/
def Scope.Settled (scope : Scope) : Prop :=
  Value.EntriesSettled scope.bindings ∧
    ∀ entry ∈ scope.modules, Value.EntriesSettled entry.2.members

/-- No pending call occurs in the store: not in the variables and modules of scopes, nor in atoms,
    channels and outcomes of futures, nor in the code of threads that are to be started. -/
structure State.Settled (s : State) : Prop where
  scopes : ∀ scope ∈ s.scopes, scope.Settled
  atoms : ∀ a ∈ s.atoms, a.value.Settled
  channels : ∀ c ∈ s.channels, Value.AllSettled c.queue
  futures : ∀ f ∈ s.futures, ∀ v, f.outcome = some (.ok v) → v.Settled
  jobs : ∀ job ∈ s.jobs, Form.AllSettled job.body

/-- What holds of all elements holds of them after one was changed in a way that keeps it. -/
theorem forall_mem_modify {α : Type} {P : α → Prop} {xs : Array α} {i : Nat} {f : α → α}
    (before : ∀ x ∈ xs, P x) (kept : ∀ x ∈ xs, P x → P (f x)) : ∀ x ∈ xs.modify i f, P x := by
  intro x member
  obtain ⟨j, found⟩ := Array.mem_iff_getElem?.1 member
  rw [Array.getElem?_modify] at found
  split at found
  · obtain ⟨y, there, rfl⟩ := Option.map_eq_some_iff.1 found
    have inside := Array.mem_of_getElem? there
    exact kept y inside (before y inside)
  · exact before x (Array.mem_of_getElem? found)

/-- What a search from a scope outward finds, some scope has. -/
theorem Scopes.searchFrom_mem {α : Type} {look : Scope → Option α} {scopes : Scopes}
    {steps i : Nat} {a : α} (found : Scopes.searchFrom look scopes steps i = some a) :
    ∃ scope ∈ scopes, look scope = some a := by
  induction steps generalizing i with
  | zero => simp [Scopes.searchFrom] at found
  | succ steps ih =>
      simp only [Scopes.searchFrom] at found
      split at found
      · cases found
      next scope there =>
        split at found
        next answer =>
          cases found
          exact ⟨scope, Array.mem_of_getElem? there, answer⟩
        next => exact ih found
        next => cases found

/-- A variable of settled scopes has a settled value. -/
theorem Scopes.find?_settled {scopes : Scopes} (settled : ∀ scope ∈ scopes, scope.Settled)
    {i : Nat} {name : String} {v : Value} (found : scopes.find? i name = some v) : v.Settled := by
  obtain ⟨scope, member, bound⟩ := Scopes.searchFrom_mem found
  exact (settled scope member).1.get? bound

/-- A module of settled scopes has settled members. -/
theorem Scopes.module?_settled {scopes : Scopes} (settled : ∀ scope ∈ scopes, scope.Settled)
    {i : Nat} {name : String} {m : NamedModule} (found : scopes.module? i name = some m) :
    Value.EntriesSettled m.members := by
  obtain ⟨scope, member, bound⟩ := Scopes.searchFrom_mem found
  exact (settled scope member).2 _ (Assoc.get?_mem bound)

end PluginLisp
