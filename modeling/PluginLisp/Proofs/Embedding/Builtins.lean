import PluginLisp.Proofs.Data.Builtins
import PluginLisp.Proofs.Data.Results
import PluginLisp.Proofs.Embedding.Data

/-!
Builtins that need no evaluator cannot tell values whose code has its decimals embedded from those where
it has not: on embedded arguments they come to the embedded result, or to the same error. The statements
go by families of builtins. Only the views of values and the operations on sequences and maps look at
what they are given, so each statement rests on those of the data.

Main results: `SequenceOp.apply_embed`, `TableOp.apply_embed` and their siblings, one for each kind of
builtin.
-/

namespace PluginLisp

/-! ### Results -/

section

variable {α β : Type}

/-- A result that a function leaves alone is not changed by mapping it. -/
theorem map_eq_self {f : α → α} {r : Except Error α} (same : Yields (fun a => f a = a) r) :
    Except.map f r = r := by
  cases r with
  | error e => rfl
  | ok a => exact congrArg Except.ok same

/-- A function that commutes with a view does so along a list. -/
theorem mapM_commutes {f : α → α} {g : β → β} {view : α → Except Error β}
    (commutes : ∀ a, view (f a) = Except.map g (view a)) (items : List α) :
    (items.map f).mapM view = Except.map (List.map g) (items.mapM view) := by
  induction items with
  | nil => rfl
  | cons a rest ih =>
      rw [List.map_cons, List.mapM_cons, List.mapM_cons, ih, commutes]
      cases view a with
      | error e => rfl
      | ok b => cases rest.mapM view <;> rfl

/-- A view that a function does not affect is not affected along a list. -/
theorem mapM_unaffected {f : α → α} {view : α → Except Error β} (same : ∀ a, view (f a) = view a)
    (items : List α) : (items.map f).mapM view = items.mapM view := by
  rw [List.mapM_map]
  exact congrArg (fun view => items.mapM view) (funext same)

/-- A test that a function does not affect can be made before or after it. -/
theorem any_unaffected {f : α → α} {p : α → Bool} (same : ∀ a, p (f a) = p a) (items : List α) :
    (items.map f).any p = items.any p := by
  rw [List.any_map]
  exact congrArg items.any (funext same)

end

/-! ### Arithmetic and comparison -/

@[simp] theorem Operands.checkNumber_embed (v : Value) :
    Operands.checkNumber v.embed = Operands.checkNumber v := by
  cases v <;> rfl

@[simp] theorem Operands.toDecimal_embed (v : Value) :
    Operands.toDecimal v.embed = Operands.toDecimal v := by
  cases v <;> rfl

/-- Operands are numbers, which embedding leaves alone. -/
@[simp] theorem Operands.ofValues_embed (args : List Value) :
    Operands.ofValues (args.map Value.embed) = Operands.ofValues args := by
  have numbers : (args.map Value.embed).forM Operands.checkNumber =
      args.forM Operands.checkNumber := by
    rw [List.forM_eq_forM, List.forM_map]
    simp only [Operands.checkNumber_embed]
  unfold Operands.ofValues
  rw [numbers, mapM_unaffected Operands.toDecimal_embed, mapM_unaffected Value.asNumber_embed,
    any_unaffected]
  intro v
  cases v <;> rfl

/-- Arithmetic answers with numbers or errors that do not show values. -/
theorem Operator.apply_embed (op : Operator) (args : List Value) :
    op.apply (args.map Value.embed) = (op.apply args).map Value.embed := by
  rw [Operator.apply, Operator.apply, Operands.ofValues_embed, map_bind]
  congr
  funext operands
  cases operands with
  | floats xs => rw [map_bind]; rfl
  | decimals xs => rw [map_bind]; rfl

/-- The operators of expressions act on embedded values as on the values. -/
theorem applyOperator_embed (symbol : String) (args : List Value) :
    applyOperator symbol (args.map Value.embed) = (applyOperator symbol args).map Value.embed := by
  unfold applyOperator
  split
  next op _ => exact op.apply_embed args
  next =>
    rw [Operands.ofValues_embed]
    cases Operands.ofValues args <;> rfl

@[simp] theorem MathOp.isNegative_embed (v : Value) :
    MathOp.isNegative v.embed = MathOp.isNegative v := by
  cases v <;> rfl

@[simp] theorem MathOp.needsShift_embed (negative : Bool) (v : Value) :
    MathOp.needsShift negative v.embed = MathOp.needsShift negative v := by
  cases v <;> rfl

theorem MathOp.flooredMod_embed (a b : Value) :
    MathOp.flooredMod a.embed b.embed = (MathOp.flooredMod a b).map Value.embed := by
  have remainder := Operator.apply_embed .rem [a, b]
  simp only [List.map_cons, List.map_nil] at remainder
  rw [MathOp.flooredMod, MathOp.flooredMod, remainder, bind_map, map_bind]
  congr
  funext r
  rw [MathOp.isNegative_embed, map_bind]
  congr
  funext negative
  rw [MathOp.needsShift_embed]
  split
  · exact Operator.apply_embed .add [r, b]
  · rfl

/-- The greatest and the least value are found by comparisons alone. -/
theorem MathOp.extremum_embed (wanted : Ordering) (best : Value) (values : List Value) :
    MathOp.extremum wanted best.embed (values.map Value.embed) =
      (MathOp.extremum wanted best values).map Value.embed := by
  induction values generalizing best with
  | nil => rfl
  | cons v rest ih =>
      rw [List.map_cons, MathOp.extremum, MathOp.extremum, Value.asNumber_embed, Value.compare_embed,
        map_bind]
      congr
      funext _
      rw [map_bind]
      congr
      funext order
      rw [← ih]
      split <;> rfl

theorem MathOp.extremumOf_embed (wanted : Ordering) (values : List Value) :
    MathOp.extremumOf wanted (values.map Value.embed) =
      (MathOp.extremumOf wanted values).map Value.embed := by
  cases values with
  | nil => rfl
  | cons v rest =>
      rw [List.map_cons, MathOp.extremumOf, MathOp.extremumOf, Value.asNumber_embed, map_bind]
      congr
      funext _
      exact MathOp.extremum_embed wanted v rest

theorem MathOp.roundWith_embed (float : Float → Float) (decimal : Decimal → Decimal) (v : Value) :
    MathOp.roundWith float decimal v.embed = (MathOp.roundWith float decimal v).map Value.embed := by
  cases v <;> rfl

/-- Powers are computed from numbers. -/
theorem MathOp.power_embed (base exponent : Value) :
    MathOp.power base.embed exponent.embed = (MathOp.power base exponent).map Value.embed := by
  have asFloats : (do
        let x ← base.asNumber
        let y ← exponent.asNumber
        return Value.number (x.pow y)) = Except.map Value.embed (do
        let x ← base.asNumber
        let y ← exponent.asNumber
        return Value.number (x.pow y)) := by
    rw [map_bind]
    simp only [map_bind, map_pure, Value.embed]
    rfl
  unfold MathOp.power
  rw [Value.asNumber_embed, Value.asNumber_embed, Value.asInt_embed]
  cases base with
  | decimal d =>
      cases exponent.asInt with
      | error e => exact asFloats
      | ok e =>
          simp only [Value.embed]
          split
          · rw [map_map]
            rfl
          · exact asFloats
  | _ => exact asFloats

/-- All mathematical builtins commute with embedding. -/
theorem MathOp.apply_embed (op : MathOp) (args : List Value) :
    op.apply (args.map Value.embed) = (op.apply args).map Value.embed := by
  cases op with
  | operator op => exact op.apply_embed args
  | min => exact MathOp.extremumOf_embed .lt args
  | max => exact MathOp.extremumOf_embed .gt args
  | modulo =>
      rcases args with _ | ⟨a, _ | ⟨b, _ | ⟨c, rest⟩⟩⟩
      case cons.cons.nil => exact MathOp.flooredMod_embed a b
      all_goals simp [MathOp.apply, map_error]
  | pow =>
      rcases args with _ | ⟨a, _ | ⟨b, _ | ⟨c, rest⟩⟩⟩
      case cons.cons.nil => exact MathOp.power_embed a b
      all_goals simp [MathOp.apply, map_error]
  | inc =>
      rcases args with _ | ⟨a, _ | ⟨b, rest⟩⟩
      case cons.nil => exact Operator.apply_embed .add [a, .number 1.0]
      all_goals simp [MathOp.apply, map_error]
  | dec =>
      rcases args with _ | ⟨a, _ | ⟨b, rest⟩⟩
      case cons.nil => exact Operator.apply_embed .sub [a, .number 1.0]
      all_goals simp [MathOp.apply, map_error]
  | abs | floor | ceil | round =>
      rcases args with _ | ⟨a, _ | ⟨b, rest⟩⟩
      case cons.nil => exact MathOp.roundWith_embed _ _ a
      all_goals simp [MathOp.apply, map_error]
  | sqrt =>
      rcases args with _ | ⟨a, _ | ⟨b, rest⟩⟩
      case cons.nil =>
        simp only [MathOp.apply, List.map_cons, List.map_nil, Value.asNumber_embed, map_bind]
        congr
        funext x
        split <;> rfl
      all_goals simp [MathOp.apply, map_error]
  | toDecimal =>
      rcases args with _ | ⟨a, _ | ⟨b, rest⟩⟩
      case cons.nil =>
        cases a with
        | number x => simp [MathOp.apply, map_map]
        | text s => simp [MathOp.apply, map_map]
        | _ => rfl
      all_goals simp [MathOp.apply, map_error]
  | isNumber =>
      rcases args with _ | ⟨a, _ | ⟨b, rest⟩⟩
      case cons.nil => cases a <;> rfl
      all_goals simp [MathOp.apply, map_error]

@[simp] theorem Value.sign_embed (v : Value) : v.embed.sign = v.sign := by
  cases v <;> rfl

/-- Equality of several values is that of their embeddings. -/
@[simp] theorem Value.allEqual_embed (values : List Value) :
    Value.allEqual (values.map Value.embed) = Value.allEqual values := by
  fun_induction Value.allEqual values with
  | case1 x y rest ih =>
      rw [List.map_cons] at ih
      rw [List.map_cons, List.map_cons, Value.allEqual, Value.equal_embed, ih]
  | case2 values short =>
      rcases values with _ | ⟨x, _ | ⟨y, rest⟩⟩
      · rfl
      · rfl
      · exact absurd rfl (short x y rest)

/-- The order of several values is that of their embeddings. -/
@[simp] theorem Value.isMonotonic_embed (accept : Ordering → Bool) (values : List Value) :
    Value.isMonotonic accept (values.map Value.embed) = Value.isMonotonic accept values := by
  fun_induction Value.isMonotonic accept values with
  | case1 x y rest ih =>
      rw [List.map_cons] at ih
      rw [List.map_cons, List.map_cons, Value.isMonotonic, Value.compare_embed, ih]
  | case2 values short =>
      rcases values with _ | ⟨x, _ | ⟨y, rest⟩⟩
      · rfl
      · rfl
      · exact absurd rfl (short x y rest)

/-- All questions about values have the same answer for their embeddings. -/
@[simp] theorem ComparisonOp.holds_embed (op : ComparisonOp) (args : List Value) :
    op.holds (args.map Value.embed) = op.holds args := by
  cases op with
  | equal | notEqual | less | greater | atMost | atLeast => simp [ComparisonOp.holds]
  | isZero | isPositive | isNegative | isEven | isOdd =>
      rcases args with _ | ⟨a, _ | ⟨b, rest⟩⟩ <;> simp [ComparisonOp.holds]

/-- All comparisons commute with embedding. -/
theorem ComparisonOp.apply_embed (op : ComparisonOp) (args : List Value) :
    op.apply (args.map Value.embed) = (op.apply args).map Value.embed := by
  rw [ComparisonOp.apply, ComparisonOp.apply, ComparisonOp.holds_embed, map_map]
  rfl

/-! ### Sequences -/

/-- The value found, or else another one. -/
theorem Value.getD_embed (found : Option Value) (default : Value) :
    (found.map Value.embed).getD default.embed = (found.getD default).embed := by
  cases found <;> rfl

theorem Value.headD_embed (values : List Value) :
    (values.map Value.embed).headD .nil = (values.headD .nil).embed := by
  cases values <;> rfl

theorem Value.getD_nil_embed (found : Option Value) :
    (found.map Value.embed).getD .nil = (found.getD .nil).embed := Value.getD_embed found .nil

/-- Elements are added to a collection without being looked at. -/
theorem SequenceOp.addTo_embed (coll : Value) (items : List Value) :
    SequenceOp.addTo coll.embed (items.map Value.embed) =
      (SequenceOp.addTo coll items).map Value.embed := by
  cases coll <;> simp [SequenceOp.addTo, map_ok, map_error, Value.typeName]

/-- A range holds numbers only. -/
theorem SequenceOp.progression_embed (start step : Float) (count : Nat) :
    (Value.list (SequenceOp.progression start step count)).embed =
      .list (SequenceOp.progression start step count) := by
  simp [SequenceOp.progression, Function.comp_def]

/-- What a range answers is not affected by embedding. -/
theorem SequenceOp.rangeOf_plain (args : List Value) :
    Yields (fun v : Value => v.embed = v) (SequenceOp.rangeOf args) := by
  apply Yields.bindAny
  intro numbers
  have built (start stop step : Float) : Yields (fun v : Value => v.embed = v)
      (if (step == 0.0 || !Number.isFinite step) = true then
        .error (.invalidArguments "range" "step must be a non-zero number")
      else do
        return .list (SequenceOp.progression start step
          (← SequenceOp.rangeLength start stop step))) := by
    split
    · trivial
    · exact Yields.bindAny fun count => SequenceOp.progression_embed _ _ count
  dsimp only
  split
  · exact built _ _ _
  · exact built _ _ _
  · exact built _ _ _
  · trivial

theorem SequenceOp.rangeOf_embed (args : List Value) :
    SequenceOp.rangeOf (args.map Value.embed) = (SequenceOp.rangeOf args).map Value.embed := by
  rw [map_eq_self (SequenceOp.rangeOf_plain args)]
  unfold SequenceOp.rangeOf
  rw [mapM_unaffected Value.asNumber_embed, List.length_map]

@[simp] theorem SequenceOp.size_embed (v : Value) : SequenceOp.size v.embed = SequenceOp.size v := by
  cases v with
  | list items | vector items =>
      have sizes : (Value.embedAll items).length = items.length := by simp
      exact congrArg Except.ok sizes
  | map entries =>
      have sizes : (Value.embedEntries entries).length = entries.length := by simp
      exact congrArg Except.ok sizes
  | _ => rfl

/-- The elements of the embedding are the embedded elements. -/
theorem SequenceOp.elements_embed (v : Value) :
    SequenceOp.elements v.embed = (SequenceOp.elements v).map (List.map Value.embed) := by
  cases v <;>
    simp [SequenceOp.elements, Value.asSeq, Value.typeName, map_ok, map_error, Function.comp_def,
      Assoc.mapValues]

@[simp] theorem SequenceOp.elementAt?_embed (items : List Value) (index : Int) :
    SequenceOp.elementAt? (items.map Value.embed) index =
      (SequenceOp.elementAt? items index).map Value.embed := by
  unfold SequenceOp.elementAt?
  split <;> simp

/-- The natural order of values is that of their embeddings. -/
@[simp] theorem SequenceOp.naturallyBefore_embed (a b : Value) :
    SequenceOp.naturallyBefore a.embed b.embed = SequenceOp.naturallyBefore a b := by
  rw [SequenceOp.naturallyBefore, SequenceOp.naturallyBefore, Value.compare_embed]

/-- Merging only compares elements. -/
theorem mergeInto_embed (merged left right : List Value) :
    mergeInto SequenceOp.naturallyBefore (merged.map Value.embed) (left.map Value.embed)
        (right.map Value.embed) =
      (mergeInto SequenceOp.naturallyBefore merged left right).map (List.map Value.embed) := by
  fun_induction mergeInto SequenceOp.naturallyBefore merged left right with
  | case1 merged right =>
      simp only [List.map_nil, mergeInto, map_pure, List.map_append, List.map_reverse]
      rfl
  | case2 merged left notNil =>
      cases left with
      | nil => exact absurd rfl notNil
      | cons a left =>
          simp only [List.map_nil, List.map_cons, mergeInto, map_pure, List.map_append,
            List.map_reverse]
          rfl
  | case3 merged a left b right ihRight ihLeft =>
      rw [List.map_cons, List.map_cons, mergeInto, SequenceOp.naturallyBefore_embed, map_bind]
      congr
      funext first
      split
      · exact ihRight
      · exact ihLeft

/-- Sorting by the natural order commutes with embedding. -/
theorem mergeSortBy_embed (items : List Value) :
    mergeSortBy SequenceOp.naturallyBefore (items.map Value.embed) =
      (mergeSortBy SequenceOp.naturallyBefore items).map (List.map Value.embed) := by
  fun_induction mergeSortBy SequenceOp.naturallyBefore items with
  | case1 items short =>
      rw [mergeSortBy, if_pos (by simpa using short)]
      rfl
  | case2 items long ihLeft ihRight =>
      rw [mergeSortBy, if_neg (by simpa using long), List.length_map, ← List.map_take,
        ← List.map_drop, ihLeft, ihRight, bind_map, map_bind]
      congr
      funext left
      rw [bind_map, map_bind]
      congr
      funext right
      exact mergeInto_embed [] left right

/-- Where there is no element at a place, the default is asked for. -/
theorem SequenceOp.nth_embed (coll index : Value) (default : List Value) :
    SequenceOp.nth.apply (coll.embed :: index.embed :: default.map Value.embed) =
      (SequenceOp.nth.apply (coll :: index :: default)).map Value.embed := by
  simp only [SequenceOp.apply, Value.asInt_embed, Value.asSeq_embed, bind_map, map_bind,
    SequenceOp.elementAt?_embed]
  congr
  funext i
  congr
  funext items
  cases SequenceOp.elementAt? items i with
  | some v => rfl
  | none =>
      cases default with
      | nil => simp [map_error]
      | cons v rest => rfl

/-- What follows the first element is nothing if there is no second one. -/
theorem SequenceOp.next_embed (coll : Value) :
    SequenceOp.next.apply [coll.embed] = (SequenceOp.next.apply [coll]).map Value.embed := by
  simp only [SequenceOp.apply, Value.asSeq_embed, bind_map, map_bind]
  congr
  funext items
  rcases items with _ | ⟨item, _ | ⟨second, more⟩⟩ <;> simp [map_pure] <;> rfl

/-- An empty collection is nothing as a list. -/
theorem SequenceOp.seq_embed (coll : Value) :
    SequenceOp.seq.apply [coll.embed] = (SequenceOp.seq.apply [coll]).map Value.embed := by
  simp only [SequenceOp.apply, SequenceOp.elements_embed, bind_map, map_bind]
  congr
  funext items
  cases items <;> simp [map_pure] <;> rfl

/-- All builtins on sequences commute with embedding. -/
theorem SequenceOp.apply_embed (op : SequenceOp) (args : List Value) :
    op.apply (args.map Value.embed) = (op.apply args).map Value.embed := by
  cases op with
  | list | vector => simp [SequenceOp.apply, map_ok]
  | range => exact SequenceOp.rangeOf_embed args
  | concat =>
      simp only [SequenceOp.apply, mapM_commutes Value.asSeq_embed, bind_map, map_bind, map_pure]
      simp [List.map_flatten]
      rfl
  | conj =>
      cases args with
      | nil => rfl
      | cons coll items => exact SequenceOp.addTo_embed coll items
  | nth =>
      rcases args with _ | ⟨coll, _ | ⟨index, default⟩⟩
      · rfl
      · rfl
      · exact SequenceOp.nth_embed coll index default
  | cons | take | drop =>
      rcases args with _ | ⟨a, _ | ⟨b, _ | ⟨c, rest⟩⟩⟩
      · rfl
      · rfl
      · simp only [SequenceOp.apply, List.map_cons, List.map_nil, Value.asInt_embed,
          Value.asSeq_embed, bind_map, map_bind, map_pure, Value.embed, Value.embedAll_eq_map,
          List.map_take, List.map_drop]
        rfl
      · simp [SequenceOp.apply, map_error]
  | sort =>
      rcases args with _ | ⟨coll, _ | ⟨b, rest⟩⟩
      · rfl
      · simp only [SequenceOp.apply, List.map_cons, List.map_nil, Value.asSeq_embed, bind_map,
          map_bind, map_pure, mergeSortBy_embed, Value.embed, Value.embedAll_eq_map]
        rfl
      · simp [SequenceOp.apply, map_error]
  | rest | reverse | count | isEmpty =>
      rcases args with _ | ⟨coll, _ | ⟨b, rest⟩⟩
      · rfl
      · simp only [SequenceOp.apply, List.map_cons, List.map_nil, Value.asSeq_embed,
          SequenceOp.size_embed, bind_map, map_bind, map_pure, Value.embed, Value.embedAll_eq_map,
          List.map_drop, List.map_reverse]
        rfl
      · simp [SequenceOp.apply, map_error]
  | first | last =>
      rcases args with _ | ⟨coll, _ | ⟨b, rest⟩⟩
      · rfl
      · simp only [SequenceOp.apply, List.map_cons, List.map_nil, Value.asSeq_embed, bind_map,
          map_bind, map_pure, List.head?_map, List.getLast?_map, Value.getD_nil_embed]
        rfl
      · simp [SequenceOp.apply, map_error]
  | next =>
      rcases args with _ | ⟨coll, _ | ⟨b, rest⟩⟩
      · rfl
      · exact SequenceOp.next_embed coll
      · simp [SequenceOp.apply, map_error]
  | seq =>
      rcases args with _ | ⟨coll, _ | ⟨b, rest⟩⟩
      · rfl
      · exact SequenceOp.seq_embed coll
      · simp [SequenceOp.apply, map_error]
  | isList | isVector =>
      rcases args with _ | ⟨v, _ | ⟨b, rest⟩⟩
      · rfl
      · cases v <;> rfl
      · simp [SequenceOp.apply, map_error]

/-! ### Maps -/

/-- Keys and values in a row make embedded entries. -/
theorem TableOp.putPairs_embed (entries : Assoc Value) (pairs : List Value) :
    TableOp.putPairs (entries.mapValues Value.embed) (pairs.map Value.embed) =
      (TableOp.putPairs entries pairs).map (Assoc.mapValues Value.embed) := by
  fun_induction TableOp.putPairs entries pairs with
  | case1 entries key value rest ih =>
      rw [List.map_cons, List.map_cons, TableOp.putPairs, Value.asKey_embed, map_bind]
      congr
      funext name
      rw [Assoc.put_mapValues]
      exact ih name
  | case2 pairs entries short =>
      rcases pairs with _ | ⟨key, _ | ⟨value, rest⟩⟩
      · rfl
      · rfl
      · exact absurd rfl (short key value rest)

theorem TableOp.putAll_embed (form : String) (entries : Assoc Value) (pairs : List Value) :
    TableOp.putAll form (entries.mapValues Value.embed) (pairs.map Value.embed) =
      (TableOp.putAll form entries pairs).map (Assoc.mapValues Value.embed) := by
  unfold TableOp.putAll
  rw [List.length_map]
  split
  · exact TableOp.putPairs_embed entries pairs
  · rfl

/-- Elements of a vector are replaced by embedded ones. -/
theorem TableOp.setPairs_embed (items pairs : List Value) :
    TableOp.setPairs (items.map Value.embed) (pairs.map Value.embed) =
      (TableOp.setPairs items pairs).map (List.map Value.embed) := by
  fun_induction TableOp.setPairs items pairs with
  | case1 items index value rest ihSet ihAdd =>
      rw [List.map_cons, List.map_cons, TableOp.setPairs, Value.asInt_embed, map_bind]
      congr
      funext i
      rw [List.length_map, ← List.map_set]
      split
      · exact ihSet i
      · split
        · rw [← ihAdd, List.map_append, List.map_cons, List.map_nil]
        · rfl
  | case2 pairs items short =>
      rcases pairs with _ | ⟨key, _ | ⟨value, rest⟩⟩
      · rfl
      · rfl
      · exact absurd rfl (short key value rest)

/-- What is found under a key is the embedded value. -/
theorem TableOp.lookup_embed (coll key : Value) :
    TableOp.lookup coll.embed key.embed =
      (TableOp.lookup coll key).map (Option.map Value.embed) := by
  cases coll with
  | map entries => cases key <;> simp [TableOp.lookup, map_ok]
  | list items | vector items =>
      simp only [TableOp.lookup, Value.embed, Value.embedAll_eq_map, Value.asInt_embed, map_ok]
      cases key.asInt <;> simp
  | _ => rfl

theorem TableOp.lookupPath_embed (coll : Value) (path : List Value) :
    TableOp.lookupPath coll.embed (path.map Value.embed) =
      (TableOp.lookupPath coll path).map (Option.map Value.embed) := by
  induction path generalizing coll with
  | nil => rfl
  | cons key rest ih =>
      rw [List.map_cons, TableOp.lookupPath, TableOp.lookupPath, TableOp.lookup_embed, bind_map,
        map_bind]
      congr
      funext found
      cases found with
      | none => rfl
      | some next => exact ih next

/-- Maps are merged entry by entry. -/
theorem TableOp.mergeAll_embed (entries : Assoc Value) (maps : List Value) :
    TableOp.mergeAll (entries.mapValues Value.embed) (maps.map Value.embed) =
      (TableOp.mergeAll entries maps).map (Assoc.mapValues Value.embed) := by
  induction maps generalizing entries with
  | nil => rfl
  | cons v rest ih =>
      cases v with
      | nil => exact ih entries
      | map more =>
          rw [List.map_cons, Value.embed, TableOp.mergeAll, TableOp.mergeAll, Value.asMap,
            Value.embedEntries_eq_mapValues]
          exact (congrArg (fun entries => TableOp.mergeAll entries (rest.map Value.embed))
            (Assoc.overlay_mapValues entries more)).trans (ih (entries.overlay more))
          all_goals simp
      | _ => rfl

theorem TableOp.dropKeys_embed (entries : Assoc Value) (keys : List Value) :
    TableOp.dropKeys (entries.mapValues Value.embed) (keys.map Value.embed) =
      (TableOp.dropKeys entries keys).map (Assoc.mapValues Value.embed) := by
  induction keys generalizing entries with
  | nil => rfl
  | cons key rest ih =>
      rw [List.map_cons, TableOp.dropKeys, TableOp.dropKeys, Value.asKey_embed, map_bind]
      congr
      funext name
      rw [Assoc.remove_mapValues]
      exact ih (entries.remove name)

theorem TableOp.assoc_embed (coll : Value) (pairs : List Value) :
    TableOp.assoc.apply (coll.embed :: pairs.map Value.embed) =
      (TableOp.assoc.apply (coll :: pairs)).map Value.embed := by
  cases coll with
  | vector items =>
      simp only [TableOp.apply, Value.embed, Value.embedAll_eq_map, List.length_map]
      split
      · rw [TableOp.setPairs_embed, map_map, map_map]
        simp
      · rfl
  | nil =>
      have put := TableOp.putAll_embed "assoc" [] pairs
      rw [Assoc.mapValues_nil] at put
      simp only [TableOp.apply, Value.embed, put, map_map, Value.embedEntries_eq_mapValues]
  | map entries =>
      have put := TableOp.putAll_embed "assoc" entries pairs
      simp only [TableOp.apply, Value.embed, Value.asMap, Value.embedEntries_eq_mapValues, map_bind]
      change TableOp.putAll "assoc" _ _ >>= _ = TableOp.putAll "assoc" _ _ >>= _
      rw [put, bind_map]
      simp only [map_pure, Value.embed, Value.embedEntries_eq_mapValues]
      rfl
  | _ => rfl

/-- All builtins on maps commute with embedding. -/
theorem TableOp.apply_embed (op : TableOp) (args : List Value) :
    op.apply (args.map Value.embed) = (op.apply args).map Value.embed := by
  cases op with
  | make =>
      have put := TableOp.putAll_embed "hash-map" [] args
      rw [Assoc.mapValues_nil] at put
      simp only [TableOp.apply, put, map_map, Value.embed, Value.embedEntries_eq_mapValues]
  | merge =>
      have merged := TableOp.mergeAll_embed [] args
      rw [Assoc.mapValues_nil] at merged
      simp only [TableOp.apply, merged, map_map, Value.embed, Value.embedEntries_eq_mapValues]
  | assoc =>
      cases args with
      | nil => rfl
      | cons coll pairs => exact TableOp.assoc_embed coll pairs
  | dissoc =>
      cases args with
      | nil => rfl
      | cons m keys =>
          simp only [TableOp.apply, List.map_cons, Value.asMap_embed, bind_map, map_bind,
            TableOp.dropKeys_embed, map_pure, Value.embed, Value.embedEntries_eq_mapValues]
          rfl
  | get =>
      rcases args with _ | ⟨coll, _ | ⟨key, default⟩⟩
      · rfl
      · rfl
      · simp only [TableOp.apply, List.map_cons, TableOp.lookup_embed, bind_map, map_bind, map_pure,
          Value.headD_embed, Value.getD_embed]
        rfl
  | getIn =>
      rcases args with _ | ⟨coll, _ | ⟨path, default⟩⟩
      · rfl
      · rfl
      · simp only [TableOp.apply, List.map_cons, Value.asSeq_embed, TableOp.lookupPath_embed,
          bind_map, map_bind, map_pure, Value.headD_embed, Value.getD_embed]
        rfl
  | contains =>
      rcases args with _ | ⟨coll, _ | ⟨key, _ | ⟨c, rest⟩⟩⟩
      · rfl
      · rfl
      · simp only [TableOp.apply, List.map_cons, List.map_nil, TableOp.lookup_embed, bind_map,
          map_bind, map_pure, Option.isSome_map, Value.embed]
        rfl
      · simp [TableOp.apply, map_error]
  | keys | vals =>
      rcases args with _ | ⟨m, _ | ⟨b, rest⟩⟩
      · rfl
      · simp only [TableOp.apply, List.map_cons, List.map_nil, Value.asMap_embed, bind_map, map_bind,
          map_pure, Assoc.names_mapValues, Assoc.items_mapValues, Value.embed, Value.embedAll_eq_map,
          List.map_map, Function.comp_def]
        rfl
      · simp [TableOp.apply, map_error]
  | isMap | keyword | name =>
      rcases args with _ | ⟨v, _ | ⟨b, rest⟩⟩
      · rfl
      · cases v <;> rfl
      · simp [TableOp.apply, map_error]

/-! ### Texts and documents -/

/-- A directive writes the same text for a value and its embedding. -/
theorem Template.argumentText_embed (cells : Cells) (d : Template.Directive) (places : Option Nat)
    (v : Value) :
    Template.argumentText cells d places v.embed = Template.argumentText cells d places v := by
  cases d <;> simp [Template.argumentText]

/-- A directive takes the same number of arguments on both sides. -/
theorem Template.expandDirective_embed (cells : Cells) (d : Template.Directive)
    (places : Option Nat) (args : List Value) :
    Template.expandDirective cells d places (args.map Value.embed) =
      (Template.expandDirective cells d places args).map
        fun (piece, rest) => (piece, rest.map Value.embed) := by
  cases d with
  | percent => rfl
  | _ =>
      cases args with
      | nil => rfl
      | cons v rest =>
          simp only [List.map_cons, Template.expandDirective, Template.argumentText_embed, map_bind]
          rfl

/-- A template makes the same text of embedded arguments. -/
theorem Template.expandFrom_embed (cells : Cells) (steps : Nat) (args : List Value)
    (template : List Char) :
    Template.expandFrom cells steps (args.map Value.embed) template =
      Template.expandFrom cells steps args template := by
  induction steps generalizing args template with
  | zero => rfl
  | succ steps ih =>
      cases template with
      | nil => rfl
      | cons c rest =>
          by_cases percent : c = '%'
          · subst percent
            rw [Template.expandFrom, Template.expandFrom]
            congr
            funext parts
            obtain ⟨places, rest⟩ := parts
            cases rest with
            | nil => rfl
            | cons letter rest =>
                dsimp only
                cases Template.Directive.ofLetter? letter with
                | none => rfl
                | some d =>
                    simp only [Template.expandDirective_embed, bind_map, ih]
          · rw [Template.expandFrom, Template.expandFrom, ih]
            all_goals simp [percent]

theorem TextOp.groupValue_embed (group : Option String) :
    (TextOp.groupValue group).embed = TextOp.groupValue group := by
  cases group <;> rfl

theorem TextOp.matchValue_embed (found : Option (List (Option String))) :
    (TextOp.matchValue found).embed = TextOp.matchValue found := by
  unfold TextOp.matchValue
  split
  · rfl
  · exact TextOp.groupValue_embed _
  · simp [Function.comp_def, TextOp.groupValue_embed]

/-- What the builtins on texts answer is not affected by embedding. -/
theorem TextOp.apply_plain (libraries : Libraries) (cells : Cells) (op : TextOp) (args : List Value) :
    Yields (fun v : Value => v.embed = v) (op.apply libraries cells args) := by
  unfold TextOp.apply
  split
  · rfl
  · exact Yields.bindAny fun template => Yields.bindAny fun s => rfl
  · exact Yields.bindAny fun items => rfl
  · exact Yields.bindAny fun items => rfl
  · exact Yields.bindAny fun s => rfl
  · exact Yields.bindAny fun s => rfl
  · exact Yields.bindAny fun s => rfl
  · refine Yields.bindAny fun s => Yields.bindAny fun separator => ?_
    simp [pure, Except.pure, Yields, Function.comp_def]
  · refine Yields.bindAny fun cs => Yields.bindAny fun first => ?_
    dsimp only
    split
    · exact Yields.bindAny fun last => Yields.bindAny fun s => rfl
    · exact Yields.bindAny fun last => Yields.bindAny fun s => rfl
  · exact Yields.bindAny fun s => Yields.bindAny fun part => rfl
  · exact Yields.bindAny fun s => Yields.bindAny fun old => Yields.bindAny fun new => rfl
  · exact Yields.bindAny fun s => rfl
  · refine Yields.bindAny fun pattern => Yields.bindAny fun p => Yields.bindAny fun s => ?_
    exact TextOp.matchValue_embed _
  · refine Yields.bindAny fun pattern => Yields.bindAny fun p => Yields.bindAny fun s => ?_
    exact TextOp.matchValue_embed _
  · trivial

/-- All builtins on texts commute with embedding. -/
theorem TextOp.apply_embed (libraries : Libraries) (cells : Cells) (op : TextOp) (args : List Value) :
    op.apply libraries cells (args.map Value.embed) =
      (op.apply libraries cells args).map Value.embed := by
  rw [map_eq_self (TextOp.apply_plain libraries cells op args)]
  have shown : Value.display cells ∘ Value.embed = Value.display cells :=
    funext (Value.display_embed cells)
  cases op with
  | str => simp only [TextOp.apply, List.map_map, shown]
  | format =>
      cases args with
      | nil => rfl
      | cons template rest =>
          simp only [TextOp.apply, List.map_cons, Value.asText_embed, Template.expand,
            Template.expandFrom_embed]
  | join =>
      rcases args with _ | ⟨a, _ | ⟨b, _ | ⟨c, rest⟩⟩⟩
      · rfl
      · simp only [TextOp.apply, List.map_cons, List.map_nil, Value.asSeq_embed, bind_map,
          List.map_map, shown]
      · simp only [TextOp.apply, List.map_cons, List.map_nil, Value.asSeq_embed, bind_map,
          List.map_map, shown, Value.display_embed]
      · simp [TextOp.apply]
  | substring =>
      rcases args with _ | ⟨s, _ | ⟨start, _ | ⟨stop, rest⟩⟩⟩
      · rfl
      · rfl
      · simp only [TextOp.apply, List.map_cons, List.map_nil, Value.asText_embed, Value.asInt_embed]
      · simp only [TextOp.apply, List.map_cons, Value.asText_embed, Value.asInt_embed]
  | upper | lower | trim | length =>
      rcases args with _ | ⟨s, _ | ⟨b, rest⟩⟩ <;> simp [TextOp.apply]
  | split | contains | find | fullMatch =>
      rcases args with _ | ⟨a, _ | ⟨b, _ | ⟨c, rest⟩⟩⟩ <;> simp [TextOp.apply]
  | replace =>
      rcases args with _ | ⟨a, _ | ⟨b, _ | ⟨c, _ | ⟨d, rest⟩⟩⟩⟩ <;> simp [TextOp.apply]

mutual

/-- Functions have no document, and everything else has that of its embedding. -/
@[simp] theorem Value.toJson_embed : ∀ v : Value, v.embed.toJson = v.toJson
  | .list items => congrArg (Except.map Json.array) (Value.toJsonAll_embed items)
  | .vector items => congrArg (Except.map Json.array) (Value.toJsonAll_embed items)
  | .map entries => congrArg (Except.map Json.object) (Value.toJsonMembers_embed entries)
  | .function _ | .transformer _ | .partialCall _ _ | .complement _ | .juxt _ | .comp _
  | .pending _ _ | .nil | .boolean _ | .number _ | .decimal _ | .text _ | .keyword _ | .symbol _
  | .builtin _ | .operator _ | .atom _ | .channel _ | .future _ | .waitGroup _ => rfl

theorem Value.toJsonAll_embed : ∀ values : List Value,
    Value.toJsonAll (Value.embedAll values) = Value.toJsonAll values
  | [] => rfl
  | v :: rest => by
      rw [Value.embedAll, Value.toJsonAll, Value.toJsonAll, Value.toJson_embed v,
        Value.toJsonAll_embed rest]

theorem Value.toJsonMembers_embed : ∀ entries : List (String × Value),
    Value.toJsonMembers (Value.embedEntries entries) = Value.toJsonMembers entries
  | [] => rfl
  | (key, v) :: rest => by
      rw [Value.embedEntries, Value.toJsonMembers, Value.toJsonMembers, Value.toJson_embed v,
        Value.toJsonMembers_embed rest]

end

mutual

/-- A value read from a document holds no code. -/
theorem Value.ofJson_embed : ∀ j : Json, (Value.ofJson j).embed = Value.ofJson j
  | .array items => congrArg Value.vector (Value.ofJsonAll_embed items)
  | .object members => congrArg Value.map (Value.ofJsonMembers_embed members)
  | .null | .boolean _ | .integer _ | .float _ | .text _ => rfl

theorem Value.ofJsonAll_embed : ∀ items : List Json,
    Value.embedAll (Value.ofJsonAll items) = Value.ofJsonAll items
  | [] => rfl
  | j :: rest => by
      rw [Value.ofJsonAll, Value.embedAll, Value.ofJson_embed j, Value.ofJsonAll_embed rest]

theorem Value.ofJsonMembers_embed : ∀ members : List (String × Json),
    Value.embedEntries (Value.ofJsonMembers members) = Value.ofJsonMembers members
  | [] => rfl
  | (key, j) :: rest => by
      rw [Value.ofJsonMembers, Value.embedEntries, Value.ofJson_embed j,
        Value.ofJsonMembers_embed rest]

end

/-- Encoding and decoding commute with embedding. -/
theorem JsonOp.apply_embed (libraries : Libraries) (op : JsonOp) (args : List Value) :
    op.apply libraries (args.map Value.embed) = (op.apply libraries args).map Value.embed := by
  cases op with
  | encode =>
      cases args with
      | nil => rfl
      | cons v options =>
          simp only [JsonOp.apply, List.map_cons, Value.headD_embed, Value.isTruthy_embed,
            Value.toJson_embed, map_bind]
          rfl
  | decode =>
      rcases args with _ | ⟨v, _ | ⟨b, rest⟩⟩
      · rfl
      · simp only [JsonOp.apply, List.map_cons, List.map_nil, Value.asText_embed, map_bind]
        congr
        funext s
        cases libraries.readJson s with
        | error reason => rfl
        | ok j => exact congrArg Except.ok (Value.ofJson_embed j).symm
      · simp [JsonOp.apply, map_error]

/-- The encodings of texts and the digests commute with embedding. -/
theorem EncodingOp.apply_embed (libraries : Libraries) (op : EncodingOp) (args : List Value) :
    op.apply libraries (args.map Value.embed) = (op.apply libraries args).map Value.embed := by
  rcases args with _ | ⟨v, _ | ⟨b, rest⟩⟩
  · rfl
  · simp only [EncodingOp.apply, List.map_cons, List.map_nil, Value.asText_embed, map_bind]
    rfl
  · simp [EncodingOp.apply, map_error]

end PluginLisp
