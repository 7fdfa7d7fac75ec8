import PluginLisp.Proofs.DataAsCode
import PluginLisp.Proofs.Decimal.Floats

/-!
Equality of values. Values are equal exactly if they mean the same: a number means its place on the
line, whether it is a float or a decimal, a list and a vector mean the sequence of what their elements
mean, and a map means the table of what its keys have. A NaN means nothing, and neither do partial
calls and combinations of functions; such a value is equal to no value. So equality is symmetric and
transitive, and a value is equal to itself unless there is something without a meaning in it.

Main results: `Value.equal_iff`, `Value.equal_symm_trans`.
-/

namespace PluginLisp

open Number

/-! ### What values mean -/

/-- What values mean to equality. -/
inductive Meaning where
  | nil
  | boolean (b : Bool)
  | rational (q : ℚ)
  | infinity (negative : Bool)
  | text (s : String)
  | keyword (name : String)
  | symbol (name : String)
  | sequence (items : List Meaning)
  | table (entries : List (String × Meaning))
  /-- A closure, known by its identity. -/
  | function (identity : Nat)
  | transformer (identity : Nat)
  | builtin (name : String)
  | operator (name : String)
  | atom (index : Nat)
  | channel (index : Nat)
  | future (index : Nat)
  | waitGroup (index : Nat)

/-- The place of a float on the line: a finite one is read by its shortest digits. -/
def Meaning.ofFloat? (x : Float) : Option Meaning :=
  match Kind.ofFloat x with
  | .nan => none
  | .infinite negative => some (infinity negative)
  | .finite _ => (Decimal.ofFloat? x).map fun d => rational d.val

mutual

/-- What a value means, if anything. -/
def Value.meaning : Value → Option Meaning
  | .nil => some .nil
  | .boolean b => some (.boolean b)
  | .number x => Meaning.ofFloat? x
  | .decimal d => some (.rational d.val)
  | .text s => some (.text s)
  | .keyword name => some (.keyword name)
  | .symbol name => some (.symbol name)
  | .list items => (Value.meaningAll items).map .sequence
  | .vector items => (Value.meaningAll items).map .sequence
  | .map entries => (Value.meaningEntries entries).map .table
  | .function closure => some (.function closure.identity)
  | .transformer closure => some (.transformer closure.identity)
  | .builtin name => some (.builtin name)
  | .operator name => some (.operator name)
  | .atom index => some (.atom index)
  | .channel index => some (.channel index)
  | .future index => some (.future index)
  | .waitGroup index => some (.waitGroup index)
  | .partialCall _ _ | .complement _ | .juxt _ | .comp _ | .pending _ _ => none

/-- What several values mean, if all of them mean anything. -/
def Value.meaningAll : List Value → Option (List Meaning)
  | [] => some []
  | v :: rest => do return (← v.meaning) :: (← Value.meaningAll rest)

/-- What the entries of a map mean, if the values of all of them mean anything. -/
def Value.meaningEntries : List (String × Value) → Option (List (String × Meaning))
  | [] => some []
  | (key, v) :: rest => do return (key, ← v.meaning) :: (← Value.meaningEntries rest)

end

/-! ### Numbers -/

namespace Meaning

/-- A float is a NaN, an infinity, or finite. -/
theorem ofFloat?_cases (x : Float) :
    (x = Float.nan ∧ Decimal.ofFloat? x = none ∧ ofFloat? x = none) ∨
      (∃ negative, x = Number.infinity negative ∧ Decimal.ofFloat? x = none ∧
        ofFloat? x = some (infinity negative)) ∨
      ∃ d, Decimal.ofFloat? x = some d ∧ ofFloat? x = some (rational d.val) := by
  unfold ofFloat?
  cases kind : Kind.ofFloat x with
  | nan =>
      have nan := Kind.ofFloat_eq_nan_iff.1 kind
      exact Or.inl ⟨nan, Decimal.ofFloat?_eq_none_iff.2 (Or.inl nan), rfl⟩
  | infinite negative =>
      have infinite := Kind.ofFloat_eq_infinite_iff.1 kind
      exact Or.inr (Or.inl
        ⟨negative, infinite, Decimal.ofFloat?_eq_none_iff.2 (Or.inr ⟨negative, infinite⟩), rfl⟩)
  | finite b =>
      obtain ⟨d, made, -⟩ := Decimal.exists_ofFloat?_of_finite kind
      exact Or.inr (Or.inr ⟨d, made, by rw [made]; rfl⟩)

/-- A float means a number or nothing. -/
theorem ofFloat?_eq_some {x : Float} {m : Meaning} (means : ofFloat? x = some m) :
    (∃ negative, m = infinity negative) ∨ ∃ q, m = rational q := by
  rcases ofFloat?_cases x with ⟨-, -, none⟩ | ⟨negative, -, -, some⟩ | ⟨d, -, some⟩
  · rw [none] at means
    cases means
  · exact Or.inl ⟨negative, Option.some.inj (means.symm.trans some)⟩
  · exact Or.inr ⟨d.val, Option.some.inj (means.symm.trans some)⟩

/-- Only an infinity means that infinity. -/
theorem ofFloat?_eq_infinity_iff {x : Float} {negative : Bool} :
    ofFloat? x = some (infinity negative) ↔ x = Number.infinity negative := by
  rw [← Kind.ofFloat_eq_infinite_iff, ofFloat?]
  cases Kind.ofFloat x with
  | nan => simp
  | infinite sign => simp
  | finite b => simp

/-- Every float means something but NaN. -/
theorem ofFloat?_isSome_iff {x : Float} : (ofFloat? x).isSome = true ↔ x ≠ Float.nan := by
  rw [Ne, ← Kind.ofFloat_eq_nan_iff, ofFloat?]
  cases kind : Kind.ofFloat x with
  | nan => simp
  | infinite negative => simp
  | finite b =>
      obtain ⟨d, made, -⟩ := Decimal.exists_ofFloat?_of_finite kind
      simp [made]

/-- Floats are equal exactly if they mean the same. -/
theorem beq_iff {x y : Float} :
    (x == y) = true ↔ ∃ m, ofFloat? x = some m ∧ ofFloat? y = some m := by
  rcases ofFloat?_cases x with ⟨rfl, -, left⟩ | ⟨negative, rfl, -, left⟩ | ⟨d, made, left⟩
  · simp [left]
  · rw [BEq.comm, beq_infinity_iff, ← ofFloat?_eq_infinity_iff, left]
    simp
  · rcases ofFloat?_cases y with ⟨rfl, -, right⟩ | ⟨negative, rfl, -, right⟩ | ⟨e, made', right⟩
    · simp [right]
    · rw [beq_infinity_iff, ← ofFloat?_eq_infinity_iff, left, right]
      simp
    · rw [Decimal.beq_iff_of_ofFloat? made made', left, right]
      simp [eq_comm]

/-- A float is equal to a decimal exactly if it means the number that the decimal stands for. -/
theorem floatEqualsDecimal_iff {x : Float} {d : Decimal} :
    floatEqualsDecimal x d = true ↔ ofFloat? x = some (rational d.val) := by
  unfold floatEqualsDecimal
  rcases ofFloat?_cases x with ⟨-, broken, means⟩ | ⟨negative, -, broken, means⟩ | ⟨e, made, means⟩
  · simp [broken, means]
  · simp [broken, means]
  · simp [made, means, Decimal.cmp_eq_eq_iff]

end Meaning

/-! ### Maps -/

namespace Assoc

variable {α : Type} {first second : Assoc α}

/-- Sorted entries that have all the keys of others, and are not more than those, have the same keys. -/
theorem Sorted.names_eq (sortedFirst : Sorted first) (sortedSecond : Sorted second)
    (size : first.length = second.length) (inSecond : ∀ key ∈ names first, key ∈ names second) :
    names first = names second := by
  have ascending {entries : Assoc α} (sorted : Sorted entries) : (names entries).Pairwise (· < ·) :=
    List.pairwise_map.2 sorted
  have distinct : (names first).Nodup :=
    (ascending sortedFirst).imp fun {_ _} before => ne_of_lt before
  have rearranged : (names first).Perm (names second) :=
    (List.subperm_of_subset distinct inSecond).perm_of_length_le (by simp [names, size])
  exact List.Perm.eq_of_pairwise (fun _ _ _ _ before after => absurd after (String.lt_asymm before))
    (ascending sortedFirst) (ascending sortedSecond) rearranged

/-- Looking up every key of sorted entries in as many others goes through both in step. -/
theorem Sorted.forall_get?_iff {r : α → α → Prop} (sortedFirst : Sorted first)
    (sortedSecond : Sorted second) (size : first.length = second.length) :
    (∀ entry ∈ first, ∃ value, get? entry.1 second = some value ∧ r entry.2 value) ↔
      List.Forall₂ (fun a b => a.1 = b.1 ∧ r a.2 b.2) first second := by
  constructor
  · intro found
    have keys : names first = names second := by
      refine sortedFirst.names_eq sortedSecond size fun key member => ?_
      obtain ⟨entry, inFirst, rfl⟩ := List.mem_map.1 member
      obtain ⟨value, here, -⟩ := found entry inFirst
      exact List.mem_map.2 ⟨_, get?_mem here, rfl⟩
    clear size
    induction first generalizing second with
    | nil =>
        obtain rfl : second = [] := List.map_eq_nil_iff.1 keys.symm
        exact .nil
    | cons entry rest ih =>
        cases second with
        | nil => cases keys
        | cons entry' rest' =>
            obtain ⟨least, sortedRest⟩ := List.pairwise_cons.1 sortedFirst
            obtain ⟨same, keys⟩ : entry.1 = entry'.1 ∧ names rest = names rest' := List.cons.inj keys
            refine .cons ⟨same, ?_⟩ (ih sortedRest sortedSecond.tail (fun other member => ?_) keys)
            · obtain ⟨value, here, related⟩ := found entry List.mem_cons_self
              simp only [get?, same, beq_self_eq_true, if_true, Option.some.injEq] at here
              exact here ▸ related
            · have above : entry'.1 ≠ other.1 := same ▸ (least other member).ne
              simpa [get?, above] using found other (List.mem_cons_of_mem _ member)
  · intro inStep entry member
    obtain ⟨entry', member', same, related⟩ :
        ∃ entry' ∈ second, entry.1 = entry'.1 ∧ r entry.2 entry'.2 := by
      clear sortedFirst sortedSecond size
      induction inStep with
      | nil => cases member
      | cons here _ ih =>
          rcases List.mem_cons.1 member with rfl | later
          · exact ⟨_, List.mem_cons_self, here⟩
          · obtain ⟨entry', member', both⟩ := ih later
            exact ⟨entry', List.mem_cons_of_mem _ member', both⟩
    exact ⟨entry'.2, sortedSecond.get?_eq_some_iff.2 (same ▸ member'), related⟩

end Assoc

/-! ### Equal values mean the same -/

/-- Entries are equal to others where each has an equal value under the same name. -/
theorem Value.equalEntries_iff {xs ys : List (String × Value)} :
    Value.equalEntries xs ys = true ↔
      ∀ entry ∈ xs, ∃ y, Assoc.get? entry.1 ys = some y ∧ entry.2.equal y = true := by
  induction xs with
  | nil => simp [Value.equalEntries]
  | cons entry rest ih =>
      rw [Value.equalEntries, Bool.and_eq_true, ih, List.forall_mem_cons]
      cases Assoc.get? entry.1 ys with
      | none => simp
      | some y => simp

/-- A float is equal to what means the same. -/
theorem Value.number_equal_iff {x : Float} {b : Value} :
    (Value.number x).equal b = true ↔ ∃ m, Meaning.ofFloat? x = some m ∧ b.meaning = some m := by
  cases b with
  | number y => exact Meaning.beq_iff
  | decimal d => simp [Value.equal, Value.meaning, Meaning.floatEqualsDecimal_iff]
  | _ =>
      refine iff_of_false (by simp [Value.equal]) ?_
      rintro ⟨m, left, right⟩
      rcases Meaning.ofFloat?_eq_some left with ⟨negative, rfl⟩ | ⟨q, rfl⟩
      · simp [Value.meaning] at right
      · simp [Value.meaning] at right

/-- What is equal to a float means the same number. -/
theorem Value.equal_number_iff {a : Value} {y : Float} :
    a.equal (.number y) = true ↔ ∃ m, a.meaning = some m ∧ Meaning.ofFloat? y = some m := by
  have swapped : a.equal (.number y) = (Value.number y).equal a := by
    cases a with
    | number x => exact BEq.comm
    | _ => simp [Value.equal]
  rw [swapped, Value.number_equal_iff]
  simp only [and_comm]

mutual

/-- Values are equal exactly if they mean the same. -/
theorem Value.equal_iff : ∀ a : Value, a.InOrder → ∀ b : Value, b.InOrder →
    (a.equal b = true ↔ ∃ m, a.meaning = some m ∧ b.meaning = some m)
  | .number x, _, b, _ => Value.number_equal_iff
  | .decimal d, _, b, _ => by
      cases b with
      | number y => exact Value.equal_number_iff
      | decimal e =>
          simp only [Value.equal, Value.meaning, beq_iff_eq, Decimal.cmp_eq_eq_iff, Option.some.injEq,
            exists_eq_left', Meaning.rational.injEq]
          exact eq_comm
      | _ => simp [Value.equal, Value.meaning]
  | .list items, inOrder, b, inOrder' => by
      cases b with
      | number y => exact Value.equal_number_iff
      | list items' | vector items' =>
          simp [Value.equal, Value.meaning, Value.equalAll_iff items inOrder items' inOrder']
      | _ => simp [Value.equal, Value.meaning]
  | .vector items, inOrder, b, inOrder' => by
      cases b with
      | number y => exact Value.equal_number_iff
      | list items' | vector items' =>
          simp [Value.equal, Value.meaning, Value.equalAll_iff items inOrder items' inOrder']
      | _ => simp [Value.equal, Value.meaning]
  | .map entries, inOrder, b, inOrder' => by
      cases b with
      | number y => exact Value.equal_number_iff
      | map entries' =>
          have lookedUp := inOrder.1.forall_get?_iff (r := fun x y => x.equal y = true) inOrder'.1
          have inStep := Value.entriesEqual_iff entries inOrder.2 entries' inOrder'.2
          simp only [Value.equal, Value.meaning, Bool.and_eq_true, beq_iff_eq, Value.equalEntries_iff]
          constructor
          · rintro ⟨size, found⟩
            obtain ⟨ms, left, right⟩ := inStep.1 ((lookedUp size).1 found)
            exact ⟨.table ms, by rw [left]; rfl, by rw [right]; rfl⟩
          · rintro ⟨m, left, right⟩
            obtain ⟨ms, lefts, rfl⟩ := Option.map_eq_some_iff.1 left
            obtain ⟨ms', rights, same⟩ := Option.map_eq_some_iff.1 right
            cases same
            have matched := inStep.2 ⟨ms, lefts, rights⟩
            exact ⟨matched.length_eq, (lookedUp matched.length_eq).2 matched⟩
      | _ => simp [Value.equal, Value.meaning]
  | .nil, _, b, _ | .boolean _, _, b, _ | .text _, _, b, _ | .keyword _, _, b, _ | .symbol _, _, b, _
  | .function _, _, b, _ | .transformer _, _, b, _ | .builtin _, _, b, _ | .operator _, _, b, _
  | .atom _, _, b, _ | .channel _, _, b, _ | .future _, _, b, _ | .waitGroup _, _, b, _
  | .partialCall _ _, _, b, _ | .complement _, _, b, _ | .juxt _, _, b, _ | .comp _, _, b, _
  | .pending _ _, _, b, _ => by
      cases b with
      | number y => exact Value.equal_number_iff
      | _ => simp [Value.equal, Value.meaning] <;> exact eq_comm

/-- Lists are equal if they mean the same, element by element. -/
theorem Value.equalAll_iff : ∀ xs : List Value, Value.AllInOrder xs → ∀ ys : List Value,
    Value.AllInOrder ys → (Value.equalAll xs ys = true ↔
      ∃ ms, Value.meaningAll xs = some ms ∧ Value.meaningAll ys = some ms)
  | [], _, [], _ => by simp [Value.equalAll, Value.meaningAll]
  | [], _, y :: ys, _ => by simp [Value.equalAll, Value.meaningAll, Option.bind_eq_some_iff]
  | x :: xs, _, [], _ => by simp [Value.equalAll, Value.meaningAll, Option.bind_eq_some_iff]
  | x :: xs, inOrder, y :: ys, inOrder' => by
      rw [Value.equalAll, Bool.and_eq_true, x.equal_iff inOrder.1 y inOrder'.1,
        Value.equalAll_iff xs inOrder.2 ys inOrder'.2]
      simp only [Value.meaningAll, Option.bind_eq_bind, Option.bind_eq_some_iff, Option.pure_def,
        Option.some.injEq]
      constructor
      · rintro ⟨⟨m, left, right⟩, ms, lefts, rights⟩
        exact ⟨m :: ms, ⟨m, left, ms, lefts, rfl⟩, m, right, ms, rights, rfl⟩
      · rintro ⟨_, ⟨m, left, ms, lefts, rfl⟩, m', right, ms', rights, same⟩
        cases same
        exact ⟨⟨m, left, right⟩, ms, lefts, rights⟩

/-- Entries of the same names are equal if they mean the same. -/
theorem Value.entriesEqual_iff : ∀ xs : List (String × Value), Value.EntriesInOrder xs →
    ∀ ys : List (String × Value), Value.EntriesInOrder ys →
      (List.Forall₂ (fun a b => a.1 = b.1 ∧ a.2.equal b.2 = true) xs ys ↔
        ∃ ms, Value.meaningEntries xs = some ms ∧ Value.meaningEntries ys = some ms)
  | [], _, [], _ => by simp [Value.meaningEntries]
  | [], _, y :: ys, _ => by simp [Value.meaningEntries, Option.bind_eq_some_iff]
  | x :: xs, _, [], _ => by simp [Value.meaningEntries, Option.bind_eq_some_iff]
  | (key, x) :: xs, inOrder, (key', y) :: ys, inOrder' => by
      rw [List.forall₂_cons, x.equal_iff inOrder.1 y inOrder'.1,
        Value.entriesEqual_iff xs inOrder.2 ys inOrder'.2]
      simp only [Value.meaningEntries, Option.bind_eq_bind, Option.bind_eq_some_iff, Option.pure_def,
        Option.some.injEq]
      constructor
      · rintro ⟨⟨rfl, m, left, right⟩, ms, lefts, rights⟩
        exact ⟨(key, m) :: ms, ⟨m, left, ms, lefts, rfl⟩, m, right, ms, rights, rfl⟩
      · rintro ⟨_, ⟨m, left, ms, lefts, rfl⟩, m', right, ms', rights, same⟩
        cases same
        exact ⟨⟨rfl, m, left, right⟩, ms, lefts, rights⟩

end

/-! ### What is equal to itself -/

/-- What is equal to nothing: a NaN, a partial call, a combination of functions, a call still to be
    made. -/
inductive Value.Unequal : Value → Prop where
  | nan : Unequal (.number Float.nan)
  | partialCall (f : Value) (bound : List Value) : Unequal (.partialCall f bound)
  | complement (f : Value) : Unequal (.complement f)
  | juxt (fs : List Value) : Unequal (.juxt fs)
  | comp (fs : List Value) : Unequal (.comp fs)
  | pending (closure : Closure) (args : List Value) : Unequal (.pending closure args)

/-- A value occurs in itself, and in the lists, vectors and maps that have it in one of their
    elements. -/
inductive Value.OccursIn (v : Value) : Value → Prop where
  | here : OccursIn v v
  | list {items : List Value} {w : Value} (mem : w ∈ items) (inside : OccursIn v w) :
      OccursIn v (.list items)
  | vector {items : List Value} {w : Value} (mem : w ∈ items) (inside : OccursIn v w) :
      OccursIn v (.vector items)
  | map {entries : List (String × Value)} {key : String} {w : Value} (mem : (key, w) ∈ entries)
      (inside : OccursIn v w) : OccursIn v (.map entries)

mutual

/-- A value means something unless there is something unequal in it. -/
theorem Value.meaning_isSome_iff : ∀ a : Value,
    a.meaning.isSome = true ↔ ∀ v : Value, v.OccursIn a → ¬ v.Unequal
  | .number x => by
      have alone : (∀ v : Value, v.OccursIn (.number x) → ¬ v.Unequal) ↔ x ≠ Float.nan := by
        constructor
        · rintro none rfl
          exact none _ .here .nan
        · rintro some v (_ | _) unequal
          cases unequal
          exact some rfl
      rw [alone]
      exact Meaning.ofFloat?_isSome_iff
  | .list items => by
      simp only [Value.meaning, Option.isSome_map, Value.meaningAll_isSome_iff items]
      constructor
      · intro means v inside unequal
        cases inside with
        | here => cases unequal
        | list mem inside => exact means _ mem v inside unequal
      · exact fun none w mem v inside => none v (.list mem inside)
  | .vector items => by
      simp only [Value.meaning, Option.isSome_map, Value.meaningAll_isSome_iff items]
      constructor
      · intro means v inside unequal
        cases inside with
        | here => cases unequal
        | vector mem inside => exact means _ mem v inside unequal
      · exact fun none w mem v inside => none v (.vector mem inside)
  | .map entries => by
      simp only [Value.meaning, Option.isSome_map, Value.meaningEntries_isSome_iff entries]
      constructor
      · intro means v inside unequal
        cases inside with
        | here => cases unequal
        | map mem inside => exact means _ mem v inside unequal
      · exact fun none entry mem v inside => none v (.map mem inside)
  | .nil | .boolean _ | .decimal _ | .text _ | .keyword _ | .symbol _ | .function _ | .transformer _
  | .builtin _ | .operator _ | .atom _ | .channel _ | .future _ | .waitGroup _ => by
      refine iff_of_true rfl ?_
      rintro v (_ | _) unequal
      cases unequal
  | .partialCall f bound =>
      iff_of_false Bool.false_ne_true fun none => none _ .here (.partialCall f bound)
  | .complement f => iff_of_false Bool.false_ne_true fun none => none _ .here (.complement f)
  | .juxt fs => iff_of_false Bool.false_ne_true fun none => none _ .here (.juxt fs)
  | .comp fs => iff_of_false Bool.false_ne_true fun none => none _ .here (.comp fs)
  | .pending closure args =>
      iff_of_false Bool.false_ne_true fun none => none _ .here (.pending closure args)

theorem Value.meaningAll_isSome_iff : ∀ vs : List Value, (Value.meaningAll vs).isSome = true ↔
    ∀ w ∈ vs, ∀ v : Value, v.OccursIn w → ¬ v.Unequal
  | [] => by simp [Value.meaningAll]
  | v :: rest => by
      rw [List.forall_mem_cons, ← v.meaning_isSome_iff, ← Value.meaningAll_isSome_iff rest,
        Value.meaningAll]
      cases v.meaning with
      | none => simp
      | some m => cases Value.meaningAll rest <;> simp

theorem Value.meaningEntries_isSome_iff : ∀ entries : List (String × Value),
    (Value.meaningEntries entries).isSome = true ↔
      ∀ entry ∈ entries, ∀ v : Value, v.OccursIn entry.2 → ¬ v.Unequal
  | [] => by simp [Value.meaningEntries]
  | (key, v) :: rest => by
      rw [List.forall_mem_cons, ← v.meaning_isSome_iff, ← Value.meaningEntries_isSome_iff rest,
        Value.meaningEntries]
      cases v.meaning with
      | none => simp
      | some m => cases Value.meaningEntries rest <;> simp

end

/-- Equality is symmetric and transitive, and a value is equal to itself exactly if nothing unequal
    occurs in it. -/
theorem Value.equal_symm_trans {a b c : Value} (first : a.InOrder) (second : b.InOrder)
    (third : c.InOrder) :
    a.equal b = b.equal a ∧ (a.equal b = true → b.equal c = true → a.equal c = true) ∧
      (a.equal a = true ↔ ∀ v : Value, v.OccursIn a → ¬ v.Unequal) := by
  refine ⟨?_, ?_, ?_⟩
  · rw [Bool.eq_iff_iff, a.equal_iff first b second, b.equal_iff second a first]
    simp only [and_comm]
  · rw [a.equal_iff first b second, b.equal_iff second c third, a.equal_iff first c third]
    rintro ⟨m, left, middle⟩ ⟨m', middle', right⟩
    rw [middle] at middle'
    cases middle'
    exact ⟨m, left, right⟩
  · rw [a.equal_iff first a first, ← a.meaning_isSome_iff, Option.isSome_iff_exists]
    simp only [and_self]

/-- A vector with a float in a map, and a list with a decimal there. -/
theorem vector_equal_list :
    (Value.list [.map [("half", .decimal ⟨5, 1⟩)]]).equal (.vector [.map [("half", .number 0.5)]]) =
        true ∧
      (Value.vector [.map [("half", .number 0.5)]]).equal (.vector [.map [("half", .number 0.5)]]) =
        true := by
  have inOrder (v : Value) (leaf : v.InOrder) :
      Value.AllInOrder [.map [("half", v)]] := by
    simp [Value.AllInOrder, Value.InOrder, Value.EntriesInOrder, Assoc.Sorted, leaf]
  have equal : (Value.vector [.map [("half", .number 0.5)]]).equal
      (.list [.map [("half", .decimal ⟨5, 1⟩)]]) = true := by decide +kernel
  have left : (Value.vector [.map [("half", .number 0.5)]]).InOrder := inOrder (.number 0.5) trivial
  have right : (Value.list [.map [("half", .decimal ⟨5, 1⟩)]]).InOrder :=
    inOrder (.decimal ⟨5, 1⟩) trivial
  obtain ⟨symmetric, transitive, -⟩ := Value.equal_symm_trans left right left
  exact ⟨symmetric ▸ equal, transitive equal (symmetric ▸ equal)⟩

end PluginLisp
