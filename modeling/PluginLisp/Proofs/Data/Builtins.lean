import PluginLisp.Builtin.Basic
import PluginLisp.Proofs.Data.Settled

/-!
Builtins that need no evaluator keep data settled: if no pending call occurs in their arguments, none
occurs in their result. The statements go by families of builtins, and rest on what the views of
values and the operations on sequences and maps hand out.

Main results: `SequenceOp.apply_settled`, `TableOp.apply_settled` and their siblings, one for each
kind of builtin.
-/

namespace PluginLisp

/-- What a result, if there is one, is known to satisfy. -/
def Yields {α : Type} (P : α → Prop) : Except Error α → Prop
  | .ok a => P a
  | .error _ => True

namespace Yields

variable {α β : Type} {P : α → Prop} {Q : β → Prop}

theorem bind {r : Except Error α} {f : α → Except Error β} (first : Yields P r)
    (next : ∀ a, P a → Yields Q (f a)) : Yields Q (r >>= f) := by
  cases r with
  | error e => trivial
  | ok a => exact next a first

/-- A step whose result does not matter. -/
theorem bindAny {r : Except Error α} {f : α → Except Error β} (next : ∀ a, Yields Q (f a)) :
    Yields Q (r >>= f) := by
  cases r with
  | error e => trivial
  | ok a => exact next a

theorem map {r : Except Error α} {f : α → β} (first : Yields P r) (next : ∀ a, P a → Q (f a)) :
    Yields Q (r.map f) := by
  cases r with
  | error e => trivial
  | ok a => exact next a first

theorem mapAny {r : Except Error α} {f : α → β} (next : ∀ a, Q (f a)) : Yields Q (r.map f) := by
  cases r with
  | error e => trivial
  | ok a => exact next a

/-- What yields something yields anything weaker. -/
theorem of_weaker {R : α → Prop} {r : Except Error α} (yields : Yields P r)
    (weaker : ∀ a, P a → R a) : Yields R r := by
  cases r with
  | error e => trivial
  | ok a => exact weaker a yields

/-- Results for each item of a list, from results for the items. -/
theorem mapM {f : α → Except Error β} {items : List α} (each : ∀ a ∈ items, Yields Q (f a)) :
    Yields (fun results => ∀ b ∈ results, Q b) (items.mapM f) := by
  induction items with
  | nil => exact fun b member => absurd member List.not_mem_nil
  | cons a rest ih =>
      obtain ⟨first, others⟩ := List.forall_mem_cons.1 each
      rw [List.mapM_cons]
      refine bind first fun b holds => bind (ih others) fun results rest => ?_
      exact List.forall_mem_cons.2 ⟨holds, rest⟩

end Yields

/-! ### Views -/

/-- The elements of a settled sequence are settled. -/
theorem Value.asSeq_settled {v : Value} (settled : v.Settled) :
    Yields Value.AllSettled v.asSeq := by
  unfold Value.asSeq
  split
  · exact settled
  · exact settled
  · trivial
  · trivial

/-- The values of a settled map are settled. -/
theorem Value.asMap_settled {v : Value} (settled : v.Settled) :
    Yields Value.EntriesSettled v.asMap := by
  unfold Value.asMap
  split
  · exact settled
  · trivial

/-- A settled value is a settled function if it is one, and a keyword is settled. -/
theorem Value.asCallable_settled {v : Value} (settled : v.Settled) (form : String) :
    Yields Value.Settled (v.asCallable form) := by
  unfold Value.asCallable
  split
  · exact settled
  · trivial

theorem Value.head?_settled {values : List Value} (settled : Value.AllSettled values) :
    (values.head?.getD .nil).Settled := by
  cases values with
  | nil => trivial
  | cons v rest => exact settled.1

theorem Value.headD_settled {values : List Value} (settled : Value.AllSettled values) :
    (values.headD .nil).Settled := by
  cases values with
  | nil => trivial
  | cons v rest => exact settled.1

theorem Value.getLast?_settled {values : List Value} (settled : Value.AllSettled values) :
    (values.getLast?.getD .nil).Settled := by
  cases found : values.getLast? with
  | none => trivial
  | some v => exact Value.allSettled_iff.1 settled v (List.mem_of_getLast? found)

/-! ### Arithmetic and comparison -/

/-- The result of arithmetic is a number. -/
theorem Operator.apply_settled (op : Operator) (args : List Value) :
    Yields Value.Settled (op.apply args) := by
  apply Yields.bindAny
  intro operands
  cases operands with
  | floats xs => exact Yields.bindAny fun x => trivial
  | decimals xs => exact Yields.bindAny fun d => trivial

theorem applyOperator_settled (symbol : String) (args : List Value) :
    Yields Value.Settled (applyOperator symbol args) := by
  unfold applyOperator
  split
  · exact Operator.apply_settled _ args
  · exact Yields.bindAny fun _ => trivial

/-- The greatest or least of settled values is one of them. -/
theorem MathOp.extremum_settled {wanted : Ordering} {best : Value} {rest : List Value}
    (settledBest : best.Settled) (settled : Value.AllSettled rest) :
    Yields Value.Settled (MathOp.extremum wanted best rest) := by
  induction rest generalizing best with
  | nil => exact settledBest
  | cons v rest ih =>
      refine Yields.bindAny fun _ => Yields.bindAny fun o => ?_
      split
      · exact ih settled.1 settled.2
      · exact ih settledBest settled.2

theorem MathOp.extremumOf_settled {wanted : Ordering} {args : List Value}
    (settled : Value.AllSettled args) : Yields Value.Settled (MathOp.extremumOf wanted args) := by
  cases args with
  | nil => trivial
  | cons v rest => exact Yields.bindAny fun _ => MathOp.extremum_settled settled.1 settled.2

theorem MathOp.roundWith_settled (float : Float → Float) (decimal : Decimal → Decimal)
    (v : Value) : Yields Value.Settled (MathOp.roundWith float decimal v) := by
  unfold MathOp.roundWith
  split
  · trivial
  · exact Yields.bindAny fun _ => trivial

theorem MathOp.power_settled (base exponent : Value) :
    Yields Value.Settled (MathOp.power base exponent) := by
  have asFloats : Yields Value.Settled (do
      let x ← base.asNumber
      let y ← exponent.asNumber
      return .number (x.pow y)) :=
    Yields.bindAny fun x => Yields.bindAny fun y => trivial
  unfold MathOp.power
  split
  · split
    · exact Yields.mapAny fun d => trivial
    · exact asFloats
  · exact asFloats

theorem MathOp.flooredMod_settled (a b : Value) : Yields Value.Settled (MathOp.flooredMod a b) := by
  apply Yields.bind (Operator.apply_settled .rem [a, b])
  intro r settled
  apply Yields.bindAny
  intro negative
  split
  · exact Operator.apply_settled .add [r, b]
  · exact settled

/-- All mathematical builtins yield settled values. -/
theorem MathOp.apply_settled {args : List Value} (settled : Value.AllSettled args) (op : MathOp) :
    Yields Value.Settled (op.apply args) := by
  unfold MathOp.apply
  split
  · exact Operator.apply_settled _ args
  · exact MathOp.flooredMod_settled _ _
  · exact Operator.apply_settled _ _
  · exact Operator.apply_settled _ _
  · exact MathOp.roundWith_settled _ _ _
  · exact MathOp.extremumOf_settled settled
  · exact MathOp.extremumOf_settled settled
  · apply Yields.bindAny
    intro x
    split <;> trivial
  · exact MathOp.power_settled _ _
  · exact MathOp.roundWith_settled _ _ _
  · exact MathOp.roundWith_settled _ _ _
  · exact MathOp.roundWith_settled _ _ _
  · split
    · exact settled.1
    · exact Yields.mapAny fun _ => trivial
    · exact Yields.mapAny fun _ => trivial
    · trivial
  · trivial
  · trivial

theorem ComparisonOp.apply_settled (op : ComparisonOp) (args : List Value) :
    Yields Value.Settled (op.apply args) :=
  Yields.mapAny fun _ => trivial

/-! ### Sequences -/

/-- Adding settled elements to a settled collection makes a settled one. -/
theorem SequenceOp.addTo_settled {coll : Value} {items : List Value} (settledColl : coll.Settled)
    (settled : Value.AllSettled items) : Yields Value.Settled (SequenceOp.addTo coll items) := by
  unfold SequenceOp.addTo
  split
  · exact Value.allSettled_append.2 ⟨settledColl, settled⟩
  · exact Value.allSettled_append.2 ⟨Value.allSettled_reverse.2 settled, settledColl⟩
  · exact Value.allSettled_reverse.2 settled
  · trivial

/-- A range holds numbers only. -/
theorem SequenceOp.progression_settled (start step : Float) (count : Nat) :
    Value.AllSettled (SequenceOp.progression start step count) := by
  apply Value.allSettled_iff.2
  intro v member
  obtain ⟨i, -, rfl⟩ := List.mem_map.1 member
  trivial

theorem SequenceOp.rangeOf_settled (args : List Value) :
    Yields Value.Settled (SequenceOp.rangeOf args) := by
  apply Yields.bindAny
  intro numbers
  have built (start stop step : Float) : Yields Value.Settled
      (if (step == 0.0 || !Number.isFinite step) = true then
        .error (.invalidArguments "range" "step must be a non-zero number")
      else do
        return .list (SequenceOp.progression start step
          (← SequenceOp.rangeLength start stop step))) := by
    split
    · trivial
    · exact Yields.bindAny fun count => SequenceOp.progression_settled _ _ count
  dsimp only
  split
  · exact built _ _ _
  · exact built _ _ _
  · exact built _ _ _
  · trivial

/-- The elements of a settled collection are settled, entries as pairs. -/
theorem SequenceOp.elements_settled {v : Value} (settled : v.Settled) :
    Yields Value.AllSettled (SequenceOp.elements v) := by
  unfold SequenceOp.elements
  split
  · apply Value.allSettled_iff.2
    intro v member
    obtain ⟨c, -, rfl⟩ := List.mem_map.1 member
    trivial
  · apply Value.allSettled_iff.2
    intro v member
    obtain ⟨entry, inside, rfl⟩ := List.mem_map.1 member
    exact ⟨trivial, Value.entriesSettled_iff.1 settled entry inside, trivial⟩
  · exact Value.asSeq_settled settled

/-- The element at a place is an element. -/
theorem SequenceOp.elementAt?_mem {items : List Value} {index : Int} {v : Value}
    (found : SequenceOp.elementAt? items index = some v) : v ∈ items := by
  unfold SequenceOp.elementAt? at found
  split at found
  · exact List.mem_of_getElem? found
  · cases found

/-- Merging only rearranges: every element of the result comes from one of the lists. -/
theorem mergeInto_mem {α : Type} {comesFirst : α → α → Except Error Bool}
    {merged left right : List α} :
    Yields (fun result => ∀ a ∈ result, a ∈ merged ∨ a ∈ left ∨ a ∈ right)
      (mergeInto comesFirst merged left right) := by
  fun_induction mergeInto comesFirst merged left right with
  | case1 merged right => intro a member; simpa using member
  | case2 merged left => intro a member; simpa using member
  | case3 merged a left b right ihRight ihLeft =>
      apply Yields.bindAny
      intro before
      split
      · refine Yields.of_weaker ihRight ?_
        intro result all x member
        have := all x member
        grind
      · refine Yields.of_weaker ihLeft ?_
        intro result all x member
        have := all x member
        grind

/-- Sorting only rearranges. -/
theorem mergeSortBy_mem {α : Type} {comesFirst : α → α → Except Error Bool} {items : List α} :
    Yields (fun result => ∀ a ∈ result, a ∈ items) (mergeSortBy comesFirst items) := by
  fun_induction mergeSortBy comesFirst items with
  | case1 items short => exact fun a member => member
  | case2 items long ihLeft ihRight =>
      refine Yields.bind ihLeft fun left fromLeft => Yields.bind ihRight fun right fromRight => ?_
      apply Yields.of_weaker mergeInto_mem
      intro result all a member
      rcases all a member with inNone | inLeft | inRight
      · cases inNone
      · exact List.mem_of_mem_take (fromLeft a inLeft)
      · exact List.mem_of_mem_drop (fromRight a inRight)

/-- Settled sequences in a row are settled. -/
theorem SequenceOp.concat_settled {args : List Value} (settled : Value.AllSettled args) :
    Yields (fun seqs => Value.AllSettled seqs.flatten) (args.mapM Value.asSeq) := by
  apply Yields.of_weaker (Yields.mapM fun v member =>
    Value.asSeq_settled (Value.allSettled_iff.1 settled v member))
  intro seqs all
  apply Value.allSettled_iff.2
  intro v member
  obtain ⟨seq, inside, there⟩ := List.mem_flatten.1 member
  exact Value.allSettled_iff.1 (all seq inside) v there

/-- All builtins on sequences yield settled values. -/
theorem SequenceOp.apply_settled {args : List Value} (settled : Value.AllSettled args)
    (op : SequenceOp) : Yields Value.Settled (op.apply args) := by
  unfold SequenceOp.apply
  split
  · exact settled
  · exact settled
  · exact Yields.bind (Value.asSeq_settled settled.2.1) fun items rest => ⟨settled.1, rest⟩
  · exact SequenceOp.addTo_settled settled.1 settled.2
  · exact SequenceOp.rangeOf_settled args
  · exact Yields.bind (Value.asSeq_settled settled.1) fun items rest => Value.head?_settled rest
  · apply Yields.bind (Value.asSeq_settled settled.1)
    intro items rest
    exact rest.of_subset fun v => List.mem_of_mem_drop
  · apply Yields.bind (Value.asSeq_settled settled.1)
    intro items rest
    split
    · exact rest.2
    · trivial
  · exact Yields.bind (Value.asSeq_settled settled.1) fun items rest => Value.getLast?_settled rest
  · refine Yields.bindAny fun i => Yields.bind (Value.asSeq_settled settled.1) fun items rest => ?_
    split
    next found => exact Value.allSettled_iff.1 rest _ (SequenceOp.elementAt?_mem found)
    next => exact settled.2.2.1
    next => trivial
  · exact Yields.bindAny fun n => trivial
  · exact Yields.bindAny fun n => trivial
  · exact Yields.bind (SequenceOp.concat_settled settled) fun seqs rest => rest
  · apply Yields.bind (Value.asSeq_settled settled.1)
    intro items rest
    exact Value.allSettled_reverse.2 rest
  · refine Yields.bindAny fun k => Yields.bind (Value.asSeq_settled settled.2.1) fun items rest => ?_
    exact rest.of_subset fun v => List.mem_of_mem_take
  · refine Yields.bindAny fun k => Yields.bind (Value.asSeq_settled settled.2.1) fun items rest => ?_
    exact rest.of_subset fun v => List.mem_of_mem_drop
  · apply Yields.bind (Value.asSeq_settled settled.1)
    intro items rest
    exact Yields.bind mergeSortBy_mem fun sorted all => rest.of_subset all
  · apply Yields.bind (SequenceOp.elements_settled settled.1)
    intro items rest
    split
    · trivial
    · exact rest
  · trivial
  · trivial
  · trivial

/-! ### Maps -/

/-- Putting settled values keeps entries settled. -/
theorem TableOp.putPairs_settled : ∀ {pairs : List Value} {entries : Assoc Value},
    Value.EntriesSettled entries → Value.AllSettled pairs →
      Yields Value.EntriesSettled (TableOp.putPairs entries pairs)
  | [], _, before, _ => before
  | [_], _, before, _ => before
  | _ :: _ :: _, _, before, settled =>
      Yields.bindAny fun _ => TableOp.putPairs_settled (before.put settled.2.1) settled.2.2

theorem TableOp.putAll_settled {form : String} {entries : Assoc Value} {pairs : List Value}
    (before : Value.EntriesSettled entries) (settled : Value.AllSettled pairs) :
    Yields Value.EntriesSettled (TableOp.putAll form entries pairs) := by
  unfold TableOp.putAll
  split
  · exact TableOp.putPairs_settled before settled
  · trivial

/-- Setting elements to settled values keeps a vector settled. -/
theorem TableOp.setPairs_settled : ∀ {pairs items : List Value},
    Value.AllSettled items → Value.AllSettled pairs →
      Yields Value.AllSettled (TableOp.setPairs items pairs)
  | [], _, before, _ => before
  | [_], _, before, _ => before
  | index :: value :: rest, items, before, settled => by
      simp only [TableOp.setPairs]
      apply Yields.bindAny
      intro i
      split
      · refine TableOp.setPairs_settled ?_ settled.2.2
        apply Value.allSettled_iff.2
        intro v member
        rcases List.mem_or_eq_of_mem_set member with inside | rfl
        · exact Value.allSettled_iff.1 before v inside
        · exact settled.2.1
      · split
        · refine TableOp.setPairs_settled ?_ settled.2.2
          exact Value.allSettled_append.2 ⟨before, settled.2.1, trivial⟩
        · trivial

/-- A value found in a settled collection is settled. -/
theorem TableOp.lookup_settled {coll : Value} (settled : coll.Settled) (key : Value) :
    Yields (fun found => ∀ v, found = some v → v.Settled) (TableOp.lookup coll key) := by
  unfold TableOp.lookup
  split
  · intro v found
    split at found
    · exact Value.EntriesSettled.get? settled found
    · exact Value.EntriesSettled.get? settled found
    · cases found
  · intro v found
    split at found
    · exact Value.allSettled_iff.1 settled v (SequenceOp.elementAt?_mem found)
    · cases found
  · intro v found
    split at found
    · exact Value.allSettled_iff.1 settled v (SequenceOp.elementAt?_mem found)
    · cases found
  · intro v found
    cases found
  · trivial

/-- So is one found along a path. -/
theorem TableOp.lookupPath_settled {coll : Value} (settled : coll.Settled) (path : List Value) :
    Yields (fun found => ∀ v, found = some v → v.Settled) (TableOp.lookupPath coll path) := by
  induction path generalizing coll with
  | nil =>
      intro v found
      cases found
      exact settled
  | cons key rest ih =>
      apply Yields.bind (TableOp.lookup_settled settled key)
      intro found holds
      split
      next next => exact ih (holds next rfl)
      next => exact fun v found => by cases found

/-- What was looked up, or the default after the key. -/
theorem TableOp.getD_settled {found : Option Value} {rest : List Value}
    (holds : ∀ v, found = some v → v.Settled) (settled : Value.AllSettled rest) :
    (found.getD (rest.headD .nil)).Settled := by
  cases found with
  | none => exact Value.headD_settled settled
  | some v => exact holds v rfl

/-- Settled maps merge to settled entries. -/
theorem TableOp.mergeAll_settled : ∀ {maps : List Value} {entries : Assoc Value},
    Value.EntriesSettled entries → Value.AllSettled maps →
      Yields Value.EntriesSettled (TableOp.mergeAll entries maps)
  | [], _, before, _ => before
  | v :: rest, entries, before, settled => by
      unfold TableOp.mergeAll
      split
      · exact before
      next same =>
        cases same
        exact TableOp.mergeAll_settled before settled.2
      next same =>
        cases same
        apply Yields.bind (Value.asMap_settled settled.1)
        intro more settledMore
        exact TableOp.mergeAll_settled (before.overlay settledMore) settled.2

/-- Dropping keys keeps entries settled. -/
theorem TableOp.dropKeys_settled : ∀ {keys : List Value} {entries : Assoc Value},
    Value.EntriesSettled entries → Yields Value.EntriesSettled (TableOp.dropKeys entries keys)
  | [], _, before => before
  | _ :: _, _, before => Yields.bindAny fun key => TableOp.dropKeys_settled (before.remove key)

theorem TableOp.items_settled {entries : Assoc Value} (settled : Value.EntriesSettled entries) :
    Value.AllSettled entries.items := by
  apply Value.allSettled_iff.2
  intro v member
  obtain ⟨entry, inside, rfl⟩ := List.mem_map.1 member
  exact Value.entriesSettled_iff.1 settled entry inside

/-- Associating settled values with a settled collection makes a settled one. -/
theorem TableOp.assoc_settled {coll : Value} {pairs : List Value} (settledColl : coll.Settled)
    (settled : Value.AllSettled pairs) :
    Yields Value.Settled (TableOp.assoc.apply (coll :: pairs)) := by
  unfold TableOp.apply
  dsimp only
  split
  · split
    · exact Yields.map (TableOp.setPairs_settled settledColl settled) fun items rest => rest
    · trivial
  · exact Yields.map (TableOp.putAll_settled trivial settled) fun entries rest => rest
  · apply Yields.bind (Value.asMap_settled settledColl)
    intro entries before
    exact Yields.bind (TableOp.putAll_settled before settled) fun entries rest => rest

/-- All builtins on maps yield settled values. -/
theorem TableOp.apply_settled {args : List Value} (settled : Value.AllSettled args)
    (op : TableOp) : Yields Value.Settled (op.apply args) := by
  unfold TableOp.apply
  split
  · exact Yields.map (TableOp.putAll_settled trivial settled) fun entries rest => rest
  · exact Yields.map (TableOp.mergeAll_settled trivial settled) fun entries rest => rest
  · apply Yields.bind (TableOp.lookup_settled settled.1 _)
    intro found holds
    exact TableOp.getD_settled holds settled.2.2
  · apply Yields.bindAny
    intro path
    apply Yields.bind (TableOp.lookupPath_settled settled.1 path)
    intro found holds
    exact TableOp.getD_settled holds settled.2.2
  · exact Yields.bindAny fun found => trivial
  · refine Yields.bindAny fun entries => Value.allSettled_iff.2 fun v member => ?_
    obtain ⟨key, -, rfl⟩ := List.mem_map.1 member
    trivial
  · exact Yields.bind (Value.asMap_settled settled.1) fun entries rest => TableOp.items_settled rest
  · exact TableOp.assoc_settled settled.1 settled.2
  · apply Yields.bind (Value.asMap_settled settled.1)
    intro entries before
    exact Yields.bind (TableOp.dropKeys_settled before) fun entries rest => rest
  · trivial
  · split
    · trivial
    · exact Yields.bindAny fun s => trivial
  · split <;> trivial
  · trivial

/-! ### Texts and documents -/

variable {libraries : Libraries}

theorem TextOp.groupValue_settled (group : Option String) : (TextOp.groupValue group).Settled := by
  cases group <;> trivial

theorem TextOp.matchValue_settled (found : Option (List (Option String))) :
    (TextOp.matchValue found).Settled := by
  unfold TextOp.matchValue
  split
  · trivial
  · exact TextOp.groupValue_settled _
  · apply Value.allSettled_iff.2
    intro v member
    obtain ⟨group, -, rfl⟩ := List.mem_map.1 member
    exact TextOp.groupValue_settled group

/-- All builtins on texts yield settled values. -/
theorem TextOp.apply_settled (cells : Cells) (op : TextOp) (args : List Value) :
    Yields Value.Settled (op.apply libraries cells args) := by
  unfold TextOp.apply
  split
  · trivial
  · exact Yields.bindAny fun template => Yields.bindAny fun s => trivial
  · exact Yields.bindAny fun items => trivial
  · exact Yields.bindAny fun items => trivial
  · exact Yields.bindAny fun s => trivial
  · exact Yields.bindAny fun s => trivial
  · exact Yields.bindAny fun s => trivial
  · refine Yields.bindAny fun s => Yields.bindAny fun separator => ?_
    apply Value.allSettled_iff.2
    intro v member
    obtain ⟨piece, -, rfl⟩ := List.mem_map.1 member
    trivial
  · refine Yields.bindAny fun cs => Yields.bindAny fun first => ?_
    dsimp only
    split
    · exact Yields.bindAny fun last => Yields.bindAny fun s => trivial
    · exact Yields.bindAny fun last => Yields.bindAny fun s => trivial
  · exact Yields.bindAny fun s => Yields.bindAny fun part => trivial
  · exact Yields.bindAny fun s => Yields.bindAny fun old => Yields.bindAny fun new => trivial
  · exact Yields.bindAny fun s => trivial
  · refine Yields.bindAny fun pattern => Yields.bindAny fun p => Yields.bindAny fun s => ?_
    exact TextOp.matchValue_settled _
  · refine Yields.bindAny fun pattern => Yields.bindAny fun p => Yields.bindAny fun s => ?_
    exact TextOp.matchValue_settled _
  · trivial

mutual

/-- A value read from a document is settled: documents hold no functions. -/
theorem Value.ofJson_settled : ∀ j : Json, (Value.ofJson j).Settled
  | .null | .boolean _ | .integer _ | .float _ | .text _ => trivial
  | .array items => Value.ofJsonAll_settled items
  | .object members => Value.ofJsonMembers_settled members

theorem Value.ofJsonAll_settled : ∀ items : List Json, Value.AllSettled (Value.ofJsonAll items)
  | [] => trivial
  | j :: rest => ⟨Value.ofJson_settled j, Value.ofJsonAll_settled rest⟩

theorem Value.ofJsonMembers_settled : ∀ members : List (String × Json),
    Value.EntriesSettled (Value.ofJsonMembers members)
  | [] => trivial
  | (_, j) :: rest => ⟨Value.ofJson_settled j, Value.ofJsonMembers_settled rest⟩

end

/-- Encoding yields a text, and decoding a settled value. -/
theorem JsonOp.apply_settled (op : JsonOp) (args : List Value) :
    Yields Value.Settled (op.apply libraries args) := by
  unfold JsonOp.apply
  split
  · exact Yields.bindAny fun j => trivial
  · apply Yields.bindAny
    intro s
    split
    · exact Value.ofJson_settled _
    · trivial
  · trivial

/-- The encodings and digests yield texts. -/
theorem EncodingOp.apply_settled (op : EncodingOp) (args : List Value) :
    Yields Value.Settled (op.apply libraries args) := by
  unfold EncodingOp.apply
  split
  · exact Yields.bindAny fun s => Yields.bindAny fun text => trivial
  · trivial

end PluginLisp
