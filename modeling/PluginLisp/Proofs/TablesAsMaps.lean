import PluginLisp.Builtin.Sequence
import PluginLisp.Proofs.Data.FiniteMaps
import PluginLisp.Proofs.Evaluation.BuiltinCalls

/-!
The maps of the language as finite maps. Whatever calls of `hash-map`, `assoc`, `dissoc` and `merge` a
map comes from, it has its keys in order, each once, and all that can be asked of it is answered as by
the finite map in which the last write of a key has won. A call with something that is no key, or with
a key that has no value, fails, and so does every call for which there is no such finite map.

Main results: `MapCall.answer_agrees`, `MapCall.run_holds`, `tables_act_as_finite_maps`.
-/

namespace PluginLisp

/-! ### Keys and values as arguments -/

/-- The key that a value is: a text and a keyword of the same name are the same key. -/
def Value.key? : Value → Option String
  | .text name | .keyword name => some name
  | _ => none

/-- Keys and values given in turn. There are none if something is no key, or the last key has no
    value. -/
def writes? : List Value → Option (List (String × Value))
  | [] => some []
  | [_] => none
  | key :: value :: rest => do
      let name ← key.key?
      let writes ← writes? rest
      return (name, value) :: writes

/-- Something stands where a key has to be, or the last key has no value. -/
def AreFaulty (pairs : List Value) : Prop :=
  ¬ 2 ∣ pairs.length ∨ ∃ i key, pairs[2 * i]? = some key ∧ key.key? = none

/-- A value is a key if it is a text or a keyword, and refused otherwise. -/
theorem Value.asKey_eq (v : Value) :
    v.asKey = match v.key? with
      | some name => .ok name
      | none => .error (.type "string or keyword key" v.typeName) := by
  cases v <;> rfl

/-- Pairs are faulty if a key is no key, or one further on. -/
theorem areFaulty_cons_cons {key value : Value} {rest : List Value} :
    AreFaulty (key :: value :: rest) ↔ key.key? = none ∨ AreFaulty rest := by
  have even : 2 ∣ (key :: value :: rest).length ↔ 2 ∣ rest.length :=
    (Nat.dvd_add_iff_left (Nat.dvd_refl 2)).symm
  unfold AreFaulty
  rw [even]
  constructor
  · rintro (odd | ⟨i, k, at_i, bad⟩)
    · exact .inr (.inl odd)
    · cases i with
      | zero =>
          cases at_i
          exact .inl bad
      | succ i => exact .inr (.inr ⟨i, k, at_i, bad⟩)
  · rintro (bad | odd | ⟨i, k, at_i, bad⟩)
    · exact .inr ⟨0, key, rfl, bad⟩
    · exact .inl odd
    · exact .inr ⟨i + 1, k, at_i, bad⟩

/-- The arguments are keys and values in turn exactly if they are not faulty. -/
theorem writes?_eq_none_iff {pairs : List Value} : writes? pairs = none ↔ AreFaulty pairs := by
  fun_induction writes? pairs with
  | case1 => simp [AreFaulty]
  | case2 key => simp [AreFaulty]
  | case3 key value rest ih =>
      rw [areFaulty_cons_cons, ← ih]
      cases key.key? <;> cases writes? rest <;> simp

/-! ### Results and what is expected of them -/

/-- There is a result exactly if one is expected, and then it is related to that one. -/
inductive Agrees {α β : Type} (R : α → β → Prop) : Except Error α → Option β → Prop where
  | ok {a : α} {b : β} (related : R a b) : Agrees R (.ok a) (some b)
  | error (e : Error) : Agrees R (.error e) none

section

variable {α β : Type} {R S : α → β → Prop} {r : Except Error α} {o : Option β}

/-- Agreement is kept by what follows from it. -/
theorem Agrees.imp (agrees : Agrees R r o) (implies : ∀ a b, R a b → S a b) : Agrees S r o := by
  cases agrees with
  | ok related => exact .ok (implies _ _ related)
  | error e => exact .error e

/-- Where nothing is expected, there is an error. -/
theorem Agrees.exists_error (agrees : Agrees R r none) : ∃ e, r = .error e := by
  cases agrees with
  | error e => exact ⟨e, rfl⟩

/-- Agreement on one result is agreement on the list of it. -/
theorem Agrees.toList (agrees : Agrees R r o) : List.Forall₂ R r.toOption.toList o.toList := by
  cases agrees with
  | ok related => exact .cons related .nil
  | error e => exact .nil

end

/-! ### Calls on entries -/

namespace Value

/-- A map with the keys and values of a finite map. -/
def Holds (v : Value) (m : FiniteMap) : Prop := ∃ entries, v = .map entries ∧ Assoc.Represents entries m

/-- A map, or `nil` for the empty one. -/
def StandsFor (v : Value) (m : FiniteMap) : Prop := v.Holds m ∨ v = .nil ∧ m = ∅

end Value

namespace TableOp

open Assoc

variable {pairs keys colls : List Value} {entries : Assoc Value} {m : FiniteMap} {maps : List FiniteMap}
  {v : Value}

/-- Putting pairs makes the writes, or fails at a key that is none. -/
theorem putPairs_agrees (even : 2 ∣ pairs.length) (represents : entries.Represents m) :
    Agrees Represents (putPairs entries pairs) ((writes? pairs).map m.write) := by
  fun_induction writes? pairs generalizing entries m with
  | case1 => exact .ok represents
  | case2 key => simp at even
  | case3 key value rest ih =>
      have evenRest : 2 ∣ rest.length := (Nat.dvd_add_iff_left (Nat.dvd_refl 2)).2 even
      rw [putPairs, Value.asKey_eq]
      cases found : key.key? with
      | none => exact .error _
      | some name =>
          have agrees := ih evenRest (represents.put name value)
          cases written : writes? rest with
          | none =>
              rw [written] at agrees
              exact agrees
          | some writes =>
              rw [written] at agrees
              exact agrees

/-- Putting arguments needs them in pairs. -/
theorem putAll_agrees (represents : entries.Represents m) (form : String) :
    Agrees Represents (putAll form entries pairs) ((writes? pairs).map m.write) := by
  unfold putAll
  split
  next even => exact putPairs_agrees (Nat.dvd_of_mod_eq_zero even) represents
  next odd =>
      have faulty : AreFaulty pairs := .inl fun even => odd (Nat.mod_eq_zero_of_dvd even)
      rw [writes?_eq_none_iff.2 faulty]
      exact .error _

/-- Dropping keys erases them, or fails at a key that is none. -/
theorem dropKeys_agrees (represents : entries.Represents m) :
    Agrees Represents (dropKeys entries keys) ((keys.mapM Value.key?).map m.without) := by
  induction keys generalizing entries m with
  | nil => exact .ok represents
  | cons key keys ih =>
      rw [dropKeys, Value.asKey_eq, List.mapM_cons]
      cases found : key.key? with
      | none => exact .error _
      | some name =>
          have agrees := ih (represents.remove name)
          cases listed : keys.mapM Value.key? with
          | none =>
              rw [listed] at agrees
              exact agrees
          | some names =>
              rw [listed] at agrees
              exact agrees

/-- Merging maps is their union, with the later ones on top. -/
theorem mergeAll_agrees (stand : List.Forall₂ Value.StandsFor colls maps)
    (represents : entries.Represents m) :
    ∃ after, mergeAll entries colls = .ok after ∧
      Represents after (maps.foldl (fun below m => m ∪ below) m) := by
  induction stand generalizing entries m with
  | nil => exact ⟨entries, rfl, represents⟩
  | cons stands _ ih =>
      rcases stands with ⟨upper, rfl, above⟩ | ⟨rfl, rfl⟩
      · exact ih (represents.overlay above)
      · rw [List.foldl_cons, Finmap.empty_union]
        exact ih represents

/-! ### Calls on values -/

/-- What a function for maps answers to the values of its arguments. -/
def answer (op : TableOp) : List Value → Except Error Value := (Primitive.table op).answer op.apply

/-- With an allowed number of arguments, a builtin answers what it computes. -/
theorem answer_of_allowed {op : TableOp} {values : List Value}
    (allowed : op.count.allows values.length = true) : op.answer values = op.apply values := by
  have counted : op.count.check op.symbol values.length = .ok () := if_pos allowed
  show (op.count.check op.symbol values.length >>= fun _ => op.apply values) = _
  rw [counted]
  rfl

theorem agrees_map {r : Except Error (Assoc Value)} {o : Option FiniteMap}
    (agrees : Agrees Represents r o) : Agrees Value.Holds (r.map .map) o := by
  cases agrees with
  | ok represents => exact .ok ⟨_, rfl, represents⟩
  | error e => exact .error e

/-- A map literal call makes its writes on the empty map. -/
theorem answer_make_agrees (pairs : List Value) :
    Agrees Value.Holds (make.answer pairs) ((writes? pairs).map (FiniteMap.write ∅)) :=
  agrees_map (putAll_agrees .empty "hash-map")

/-- `assoc` makes its writes on the map that its first argument stands for. -/
theorem answer_assoc_agrees (stands : v.StandsFor m) (pairs : List Value) :
    Agrees Value.Holds (assoc.answer (v :: pairs))
      (if pairs.isEmpty then none else (writes? pairs).map m.write) := by
  match pairs with
  | [] => exact .error _
  | [_] => exact .error _
  | key :: value :: rest =>
      have allowed : assoc.count.allows (v :: key :: value :: rest).length = true := by
        simp [count, ArgCount.allows]
      rw [answer_of_allowed allowed]
      rcases stands with ⟨entries, rfl, represents⟩ | ⟨rfl, rfl⟩
      · have applied : assoc.apply (.map entries :: key :: value :: rest) =
            (putAll "assoc" entries (key :: value :: rest)).map .map := by
          show (putAll "assoc" entries (key :: value :: rest) >>= fun made => pure (Value.map made)) = _
          cases putAll "assoc" entries (key :: value :: rest) <;> rfl
        rw [applied]
        exact agrees_map (putAll_agrees represents "assoc")
      · exact agrees_map (putAll_agrees .empty "assoc")

/-- `dissoc` erases its keys. -/
theorem answer_dissoc_agrees (holds : v.Holds m) (keys : List Value) :
    Agrees Value.Holds (dissoc.answer (v :: keys)) ((keys.mapM Value.key?).map m.without) := by
  have allowed : dissoc.count.allows (v :: keys).length = true := by simp [count, ArgCount.allows]
  obtain ⟨entries, rfl, represents⟩ := holds
  have applied : dissoc.apply (.map entries :: keys) = (dropKeys entries keys).map .map := by
    simp only [apply, Value.asMap]
    show (dropKeys entries keys >>= fun made => pure (Value.map made)) = _
    cases dropKeys entries keys <;> rfl
  rw [answer_of_allowed allowed, applied]
  exact agrees_map (dropKeys_agrees represents)

theorem answer_dissoc_nil (keys : List Value) :
    dissoc.answer (.nil :: keys) = .error (.type "hashmap" "nil") := by
  have allowed : dissoc.count.allows (Value.nil :: keys).length = true := by simp [count, ArgCount.allows]
  rw [answer_of_allowed allowed, apply]
  rfl

/-- `merge` answers the maps in layers. -/
theorem answer_merge (stand : List.Forall₂ Value.StandsFor colls maps) :
    ∃ v, merge.answer colls = .ok v ∧ v.Holds (FiniteMap.layered maps) := by
  obtain ⟨after, merged, represents⟩ := mergeAll_agrees stand .empty
  refine ⟨.map after, ?_, after, rfl, represents⟩
  show (mergeAll [] colls).map Value.map = _
  rw [merged]
  rfl

end TableOp

/-! ### Questions -/

namespace SequenceOp

/-- What a function for sequences answers to the values of its arguments; `sort` here is the one
    without a comparator. -/
def answer (op : SequenceOp) : List Value → Except Error Value :=
  (Primitive.sequence op).answer op.apply

end SequenceOp

/-- What the finite map has for a value that may be a key. -/
def FiniteMap.at? (m : FiniteMap) (key : Value) : Option Value := key.key?.bind m.lookup

/-- The entries of the finite map for some keys, as vectors. -/
def FiniteMap.pairs (m : FiniteMap) (names : List String) : List Value :=
  names.filterMap fun name => (m.lookup name).map fun v => .vector [.keyword name, v]

namespace Value

/-- The questions that `nil` answers, too, are answered as by a finite map whose keys are the given
    names in order. -/
structure ReadsAs (v : Value) (m : FiniteMap) (names : List String) : Prop where
  ordered : names.Pairwise fun a b => Encoding.bytesOf a < Encoding.bytesOf b
  mem_names : ∀ name, name ∈ names ↔ name ∈ m
  get : ∀ key, TableOp.get.answer [v, key] = .ok ((m.at? key).getD .nil)
  getOr : ∀ key default, TableOp.get.answer [v, key, default] = .ok ((m.at? key).getD default)
  contains : ∀ key, TableOp.contains.answer [v, key] = .ok (.boolean (m.at? key).isSome)
  count : SequenceOp.count.answer [v] = .ok (.number (Number.ofNat m.keys.card))
  seq : SequenceOp.seq.answer [v] = .ok (if m.pairs names = [] then .nil else .list (m.pairs names))

/-- All questions are answered as by a finite map whose keys are the given names in order. -/
structure AnswersAs (v : Value) (m : FiniteMap) (names : List String) : Prop extends
    ReadsAs v m names where
  keys : TableOp.keys.answer [v] = .ok (.list (names.map .keyword))
  vals : TableOp.vals.answer [v] = .ok (.list (names.filterMap m.lookup))

/-- All questions are answered as by a finite map. -/
def ActsAs (v : Value) (m : FiniteMap) : Prop := ∃ names, v.AnswersAs m names

end Value

theorem Value.readsAs_nil : Value.nil.ReadsAs ∅ [] where
  ordered := .nil
  mem_names _ := by simp [Finmap.notMem_empty]
  get key := by cases key <;> rfl
  getOr key default := by cases key <;> rfl
  contains key := by cases key <;> rfl
  count := rfl
  seq := rfl

section

variable {entries : Assoc Value} {m : FiniteMap}

/-- What there is for the keys of a map stands where the keys do. -/
theorem Assoc.filterMap_names {β : Type} {f : String → Option β} {g : String × Value → β}
    (same : ∀ entry ∈ entries, f entry.1 = some (g entry)) :
    (Assoc.names entries).filterMap f = entries.map g := by
  rw [Assoc.names, List.filterMap_map, ← List.filterMap_eq_map]
  exact List.filterMap_congr same

namespace Assoc.Represents

/-- The map has every entry of the table. -/
theorem lookup_of_mem (represents : entries.Represents m) : ∀ entry ∈ entries,
    m.lookup entry.1 = some entry.2 := fun entry member =>
  (represents.lookup entry.1).symm.trans (represents.sorted.get?_eq_some_iff.2 member)

/-- Looking up a key in a table asks the map. -/
theorem lookup_map (represents : entries.Represents m) (key : Value) :
    TableOp.lookup (.map entries) key = .ok (m.at? key) := by
  cases key <;> simp [TableOp.lookup, FiniteMap.at?, Value.key?, represents.lookup]

/-- The names of a table are the keys of the map. -/
theorem mem_names (represents : entries.Represents m) (name : String) :
    name ∈ Assoc.names entries ↔ name ∈ m := by
  rw [← Assoc.has_iff_mem_names, Assoc.has, represents.lookup, Finmap.lookup_isSome]

/-- The names come in the order of their bytes. -/
theorem ordered (represents : entries.Represents m) :
    (Assoc.names entries).Pairwise fun a b => Encoding.bytesOf a < Encoding.bytesOf b :=
  List.pairwise_map.2 (represents.sorted.imp Encoding.bytesOf_lt_iff.2)

/-- There are as many entries as keys. -/
theorem length_eq (represents : entries.Represents m) : entries.length = m.keys.card := by
  have distinct : (Assoc.names entries).Nodup :=
    List.pairwise_map.2 (represents.sorted.imp fun less => ne_of_lt less)
  have same : (Assoc.names entries).toFinset = m.keys := by
    ext name
    rw [List.mem_toFinset, represents.mem_names, Finmap.mem_keys]
  rw [← same, List.toFinset_card_of_nodup distinct, Assoc.names, List.length_map]

end Assoc.Represents

/-- A table answers every question as the map it holds. -/
theorem Value.Holds.actsAs {v : Value} (holds : v.Holds m) : v.ActsAs m := by
  obtain ⟨entries, rfl, represents⟩ := holds
  have looked := represents.lookup_map
  have pairs : m.pairs (Assoc.names entries) =
      entries.map fun entry => .vector [.keyword entry.1, entry.2] :=
    Assoc.filterMap_names fun entry member => by rw [represents.lookup_of_mem entry member]; rfl
  have vals : (Assoc.names entries).filterMap m.lookup = Assoc.items entries :=
    Assoc.filterMap_names represents.lookup_of_mem
  refine ⟨Assoc.names entries, {
    ordered := represents.ordered
    mem_names := represents.mem_names
    get := fun key => ?_
    getOr := fun key default => ?_
    contains := fun key => ?_
    count := ?_
    seq := ?_
    keys := rfl
    vals := ?_ }⟩
  · rw [TableOp.answer_of_allowed rfl, TableOp.apply, looked]
    rfl
  · rw [TableOp.answer_of_allowed rfl, TableOp.apply, looked]
    rfl
  · rw [TableOp.answer_of_allowed rfl, TableOp.apply, looked]
    rfl
  · rw [← represents.length_eq]
    rfl
  · rw [pairs]
    cases entries <;> rfl
  · rw [vals]
    rfl

end

/-! ### Sequences of calls -/

/-- A collection that a call is given: none, written `nil`, or the map that a call made before. Maps are
    numbered in the order of their making. -/
inductive MapSource where
  | nil
  | made (i : Nat)

/-- A call that makes a map of the maps made before and of other values. -/
inductive MapCall where
  | make (pairs : List Value)
  | assoc (coll : MapSource) (pairs : List Value)
  | dissoc (coll : MapSource) (keys : List Value)
  | merge (colls : List MapSource)

namespace MapSource

/-- The value that is given; it is `nil` if there is no such map. -/
def value (made : List Value) : MapSource → Value
  | nil => .nil
  | .made i => made[i]?.getD .nil

/-- The finite map for what is given, if it is a map. -/
def map? (maps : List FiniteMap) : MapSource → Option FiniteMap
  | nil => none
  | .made i => maps[i]?

/-- The finite map for what is given, where `nil` stands for the empty map. -/
def map (maps : List FiniteMap) (source : MapSource) : FiniteMap := (source.map? maps).getD ∅

end MapSource

namespace MapCall

/-- What a call answers, given the maps made before. -/
def answer (made : List Value) : MapCall → Except Error Value
  | make pairs => TableOp.make.answer pairs
  | assoc coll pairs => TableOp.assoc.answer (coll.value made :: pairs)
  | dissoc coll keys => TableOp.dissoc.answer (coll.value made :: keys)
  | merge colls => TableOp.merge.answer (colls.map (·.value made))

/-- The finite map that a call has to come to, given those that were made before. -/
def expected? (maps : List FiniteMap) : MapCall → Option FiniteMap
  | make pairs => (writes? pairs).map (FiniteMap.write ∅)
  | assoc coll pairs => if pairs.isEmpty then none else (writes? pairs).map (coll.map maps).write
  | dissoc coll keys => (coll.map? maps).bind fun m => (keys.mapM Value.key?).map m.without
  | merge colls => some (FiniteMap.layered (colls.map (·.map maps)))

/-- A call with something that is no key, or with a key that has no value. -/
def IsFaulty : MapCall → Prop
  | make pairs | assoc _ pairs => AreFaulty pairs
  | dissoc _ keys => ∃ key ∈ keys, key.key? = none
  | merge _ => False

/-- The maps made by calls one after the other; a call that fails makes none. -/
def run (calls : List MapCall) : List Value :=
  calls.foldl (fun made call => made ++ (call.answer made).toOption.toList) []

/-- The finite maps for calls one after the other. -/
def expected (calls : List MapCall) : List FiniteMap :=
  calls.foldl (fun maps call => maps ++ (call.expected? maps).toList) []

variable {made : List Value} {maps : List FiniteMap}

/-- What a call works on is a table, or `nil` where nothing was made. -/
theorem holds_or_missing (hold : List.Forall₂ Value.Holds made maps) (source : MapSource) :
    (∃ m, source.map? maps = some m ∧ (source.value made).Holds m) ∨
      source.map? maps = none ∧ source.value made = .nil := by
  cases source with
  | nil => exact .inr ⟨rfl, rfl⟩
  | made i =>
      show (∃ m, maps[i]? = some m ∧ (made[i]?.getD .nil).Holds m) ∨
        maps[i]? = none ∧ made[i]?.getD .nil = .nil
      by_cases inside : i < made.length
      · have inside' : i < maps.length := hold.length_eq ▸ inside
        rw [List.getElem?_eq_getElem inside, List.getElem?_eq_getElem inside']
        exact .inl ⟨maps[i], rfl, hold.get inside inside'⟩
      · have outside : made.length ≤ i := Nat.le_of_not_lt inside
        have outside' : maps.length ≤ i := hold.length_eq ▸ outside
        rw [List.getElem?_eq_none outside, List.getElem?_eq_none outside']
        exact .inr ⟨rfl, rfl⟩

/-- What a call works on stands for a map, with `nil` for the empty one. -/
theorem standsFor (hold : List.Forall₂ Value.Holds made maps) (source : MapSource) :
    (source.value made).StandsFor (source.map maps) := by
  rw [MapSource.map]
  rcases holds_or_missing hold source with ⟨m, found, holds⟩ | ⟨missing, value⟩
  · rw [found]
    exact .inl holds
  · rw [missing]
    exact .inr ⟨value, rfl⟩

/-- One call. -/
theorem answer_agrees (hold : List.Forall₂ Value.Holds made maps) (call : MapCall) :
    Agrees Value.Holds (call.answer made) (call.expected? maps) := by
  cases call with
  | make pairs => exact TableOp.answer_make_agrees pairs
  | assoc coll pairs => exact TableOp.answer_assoc_agrees (standsFor hold coll) pairs
  | dissoc coll keys =>
      rw [answer, expected?]
      rcases holds_or_missing hold coll with ⟨m, found, holds⟩ | ⟨missing, value⟩
      · rw [found]
        exact TableOp.answer_dissoc_agrees holds keys
      · rw [missing, value, TableOp.answer_dissoc_nil]
        exact .error _
  | merge colls =>
      have stand : List.Forall₂ Value.StandsFor (colls.map (·.value made)) (colls.map (·.map maps)) := by
        rw [List.forall₂_map_left_iff, List.forall₂_map_right_iff, List.forall₂_same]
        exact fun coll _ => standsFor hold coll
      obtain ⟨v, merged, holds⟩ := TableOp.answer_merge stand
      rw [answer, merged]
      exact .ok holds

/-- A sequence of calls. -/
theorem run_holds (calls : List MapCall) : List.Forall₂ Value.Holds (run calls) (expected calls) := by
  induction calls using List.reverseRecOn with
  | nil => exact .nil
  | append_singleton calls call ih =>
      rw [run, expected, List.foldl_concat, List.foldl_concat]
      exact List.rel_append ih (answer_agrees ih call).toList

/-- With one value that is no key there are no keys. -/
theorem mapM_key?_eq_none {keys : List Value} (bad : ∃ key ∈ keys, key.key? = none) :
    keys.mapM Value.key? = none := by
  obtain ⟨key, member, bad⟩ := bad
  induction keys with
  | nil => cases member
  | cons first rest ih =>
      rw [List.mapM_cons]
      rcases List.mem_cons.1 member with rfl | later
      · rw [bad]
        rfl
      · rw [ih later]
        cases first.key? <;> rfl

/-- Nothing is expected of a faulty call. -/
theorem expected?_of_isFaulty {call : MapCall} (faulty : call.IsFaulty) : call.expected? maps = none := by
  cases call with
  | make pairs =>
      rw [expected?, writes?_eq_none_iff.2 faulty]
      rfl
  | assoc coll pairs =>
      rw [expected?, writes?_eq_none_iff.2 faulty]
      exact ite_self none
  | dissoc coll keys =>
      rw [expected?, mapM_key?_eq_none faulty]
      cases coll.map? maps <;> rfl
  | merge colls => cases faulty

/-- A call that fails makes nothing. -/
theorem run_concat_of_error {calls : List MapCall} {call : MapCall} {e : Error}
    (failed : call.answer (run calls) = .error e) : run (calls ++ [call]) = run calls := by
  rw [run, List.foldl_concat]
  show run calls ++ (call.answer (run calls)).toOption.toList = run calls
  rw [failed]
  exact List.append_nil _

end MapCall

/-! ### Vectors -/

namespace TableOp

variable {items : List Value}

/-- Indices and values in turn. -/
def inTurn (pairs : List (Value × Value)) : List Value := pairs.flatMap fun pair => [pair.1, pair.2]

/-- Elements are set one pair after the other. -/
theorem setPairs_cons (items : List Value) (index value : Value) (rest : List Value) :
    setPairs items (index :: value :: rest) =
      setPairs items [index, value] >>= fun items => setPairs items rest := by
  simp only [setPairs]
  cases index.asInt with
  | error e => rfl
  | ok i =>
      show (if _ then _ else _) = (if _ then _ else _) >>= _
      split
      · rfl
      · split <;> rfl

/-- Setting elements in pairs is setting one after the other. -/
theorem setPairs_inTurn (items : List Value) (pairs : List (Value × Value)) :
    setPairs items (inTurn pairs) =
      pairs.foldlM (fun items pair => setPairs items [pair.1, pair.2]) items := by
  induction pairs generalizing items with
  | nil => rfl
  | cons pair pairs ih =>
      rw [List.foldlM_cons, ← funext ih]
      exact setPairs_cons items pair.1 pair.2 (inTurn pairs)

/-- `assoc` on a vector needs its arguments in pairs. -/
theorem answer_assoc_vector {index value : Value} {rest : List Value} :
    assoc.answer (.vector items :: index :: value :: rest) =
      if (index :: value :: rest).length % 2 = 0 then
        (setPairs items (index :: value :: rest)).map .vector
      else .error (.invalidArguments "assoc" "expected index/value pairs") := by
  have allowed : assoc.count.allows (Value.vector items :: index :: value :: rest).length = true := by
    simp [count, ArgCount.allows]
  rw [answer_of_allowed allowed, apply]

theorem answer_assoc_pair (items : List Value) (index value : Value) :
    assoc.answer [.vector items, index, value] = (setPairs items [index, value]).map .vector :=
  answer_assoc_vector.trans (if_pos (by simp))

theorem length_inTurn (pairs : List (Value × Value)) : (inTurn pairs).length = 2 * pairs.length := by
  induction pairs with
  | nil => rfl
  | cons pair pairs ih =>
      show (inTurn pairs).length + 2 = 2 * (pairs.length + 1)
      rw [ih, Nat.mul_succ]

/-- Setting several indices is setting one after the other. -/
theorem answer_assoc_inTurn (items : List Value) (pair : Value × Value) (pairs : List (Value × Value)) :
    assoc.answer (.vector items :: inTurn (pair :: pairs)) =
      (pair :: pairs).foldlM (fun v pair => assoc.answer [v, pair.1, pair.2]) (.vector items) := by
  have single (pairs : List (Value × Value)) (items : List Value) :
      pairs.foldlM (fun v pair => assoc.answer [v, pair.1, pair.2]) (.vector items) =
        (pairs.foldlM (fun items pair => setPairs items [pair.1, pair.2]) items).map Value.vector := by
    induction pairs generalizing items with
    | nil => rfl
    | cons pair pairs ih =>
        rw [List.foldlM_cons, List.foldlM_cons, answer_assoc_pair]
        cases setPairs items [pair.1, pair.2] with
        | error e => rfl
        | ok set => exact ih set
  have even : (inTurn (pair :: pairs)).length % 2 = 0 := by
    rw [length_inTurn]
    exact Nat.mul_mod_right 2 _
  rw [single, ← setPairs_inTurn]
  exact answer_assoc_vector.trans (if_pos even)

/-- Setting one index: the one just past the end adds an element. -/
theorem answer_assoc_index (items : List Value) (index value : Value) :
    assoc.answer [.vector items, index, value] = index.asInt >>= fun i =>
      if i = items.length then .ok (.vector (items ++ [value]))
      else if 0 ≤ i ∧ i < items.length then .ok (.vector (items.set i.toNat value))
      else .error (.indexOutOfBounds i items.length) := by
  rw [answer_assoc_pair]
  simp only [setPairs]
  cases index.asInt with
  | error e => rfl
  | ok i =>
      show Except.map _ (if _ then _ else _) = if _ then _ else _
      by_cases last : i = items.length
      · rw [if_pos last, if_neg (by omega), if_pos last]
        rfl
      · by_cases inside : 0 ≤ i ∧ i < items.length
        · simp only [if_neg last, if_pos inside]
          rfl
        · simp only [if_neg last, if_neg inside]
          rfl

/-- An index without a value is an error. -/
theorem answer_assoc_odd {pairs : List Value} (odd : ¬ 2 ∣ pairs.length) :
    ∃ e, assoc.answer (.vector items :: pairs) = .error e := by
  match pairs with
  | [] => exact absurd (Nat.dvd_zero 2) odd
  | [_] => exact ⟨_, rfl⟩
  | index :: value :: rest =>
      have uneven : ¬ (index :: value :: rest).length % 2 = 0 := fun even =>
        odd (Nat.dvd_of_mod_eq_zero even)
      exact ⟨_, answer_assoc_vector.trans (if_neg uneven)⟩

end TableOp

/-! ### Maps in programs -/

open World in
/-- The maps that calls of `hash-map`, `assoc`, `dissoc` and `merge` come to act as finite maps in
    which the last write of a key wins, and each further call succeeds exactly if there is such a
    finite map for it; with something that is no key, or a key without value, it fails and the maps
    made before are all that there is. A call by name that fails changes nothing that evaluating its
    arguments has not changed. On a vector, `assoc` sets one index after the other. -/
theorem tables_act_as_finite_maps :
    (∀ calls : List MapCall,
      List.Forall₂ Value.ActsAs (MapCall.run calls) (MapCall.expected calls) ∧
      ∀ call : MapCall,
        Agrees Value.ActsAs (call.answer (MapCall.run calls))
          (call.expected? (MapCall.expected calls)) ∧
        (call.IsFaulty → (∃ e, call.answer (MapCall.run calls) = .error e) ∧
          MapCall.run (calls ++ [call]) = MapCall.run calls)) ∧
    (∀ (m : FiniteMap) writes key,
      (m.write writes).lookup key = (FiniteMap.lastWrite? key writes).or (m.lookup key)) ∧
    Value.nil.ReadsAs ∅ [] ∧
    (∀ (op : TableOp) (settings : Settings) (scope : Nat) (w u : World) (args : List Form)
      (values : List Value), w.Registers settings (.table op) →
      w.EvaluatesInTurn settings scope args values u →
      (∀ v, op.answer values = .ok v → v.IsPlain →
        w.Evaluates settings .deferred ((Primitive.table op).on args) scope (.ok v) u) ∧
      ∀ e, op.answer values = .error e →
        ∃ e' after, w.Evaluates settings .deferred ((Primitive.table op).on args) scope (.error e')
          after ∧ e'.root = e.root ∧ (after = w ∨ after = u)) ∧
    (∀ (items : List Value) (pair : Value × Value) (pairs : List (Value × Value)),
      TableOp.assoc.answer (.vector items :: TableOp.inTurn (pair :: pairs)) =
        (pair :: pairs).foldlM (fun v pair => TableOp.assoc.answer [v, pair.1, pair.2])
          (.vector items)) ∧
    (∀ (items : List Value) (index value : Value),
      TableOp.assoc.answer [.vector items, index, value] = index.asInt >>= fun i =>
        if i = items.length then .ok (.vector (items ++ [value]))
        else if 0 ≤ i ∧ i < items.length then .ok (.vector (items.set i.toNat value))
        else .error (.indexOutOfBounds i items.length)) ∧
    ∀ items pairs : List Value, ¬ 2 ∣ pairs.length →
      ∃ e, TableOp.assoc.answer (.vector items :: pairs) = .error e := by
  refine ⟨fun calls => ⟨?_, fun call => ⟨?_, fun faulty => ?_⟩⟩, FiniteMap.lookup_write,
    Value.readsAs_nil, ?_, TableOp.answer_assoc_inTurn, TableOp.answer_assoc_index, ?_⟩
  · exact (MapCall.run_holds calls).imp fun _ _ holds => holds.actsAs
  · exact (MapCall.answer_agrees (MapCall.run_holds calls) call).imp fun _ _ holds => holds.actsAs
  · have agrees := MapCall.answer_agrees (MapCall.run_holds calls) call
    rw [MapCall.expected?_of_isFaulty faulty] at agrees
    obtain ⟨e, failed⟩ := agrees.exists_error
    exact ⟨⟨e, failed⟩, MapCall.run_concat_of_error failed⟩
  · intro op settings scope w u args values registers inTurn
    exact evaluates_answer op.computes registers inTurn
  · exact fun items pairs odd => TableOp.answer_assoc_odd odd

open World in
/-- Maps that come from one another, a call that fails for a missing value, and in a program one that
    sets a key and one that fails for something that is no key. -/
theorem tables_act_as_finite_maps_layered :
    let calls : List MapCall := [
      .make [.text "b", .boolean true, .keyword "a", .nil],
      .assoc (.made 0) [.keyword "b", .boolean false],
      .merge [.nil, .made 1, .made 0],
      .dissoc (.made 2) [.text "a"]]
    let faulty : MapCall := .assoc (.made 0) [.text "c"]
    let set : List Form := Evaluator.literals [.nil, .text "a", .boolean true]
    let bad : List Form := Evaluator.literals [.nil, .nil, .boolean true]
    let w : World := offering "hashmap" [.table .assoc]
    List.Forall₂ Value.ActsAs (MapCall.run calls) (MapCall.expected calls) ∧
    (faulty.IsFaulty ∧ (∃ e, faulty.answer (MapCall.run calls) = .error e) ∧
      MapCall.run (calls ++ [faulty]) = MapCall.run calls) ∧
    w.Registers {} (.table .assoc) ∧
    w.Evaluates {} .deferred ((Primitive.table .assoc).on set) 0
      (.ok (.map [("a", .boolean true)])) w ∧
    (∃ e, w.Evaluates {} .deferred ((Primitive.table .assoc).on bad) 0 (.error e) w ∧
      e.root = .type "string or keyword key" "nil") ∧
    ¬ 2 ∣ [Value.nil].length ∧ ∃ e, TableOp.assoc.answer [.vector [], .nil] = .error e := by
  intro calls faulty set bad w
  obtain ⟨sequences, -, -, programs, -, -, uneven⟩ := tables_act_as_finite_maps
  have registers : w.Registers {} (.table .assoc) := ⟨_, rfl, rfl⟩
  have plain (key : Value) (plainKey : key.IsPlain) : ∀ v ∈ [.nil, key, .boolean true], v.IsPlain := by
    simp only [List.forall_mem_cons]
    exact ⟨nofun, plainKey, nofun, nofun⟩
  have unfaulty : faulty.IsFaulty := .inl (by decide)
  have odd : ¬ 2 ∣ [Value.nil].length := by decide
  have called (key : Value) (plainKey : key.IsPlain) := programs .assoc {} 0 _ _ _ _ registers
    (evaluatesInTurn_literals (plain key plainKey))
  refine ⟨(sequences calls).1, ⟨unfaulty, ((sequences calls).2 faulty).2 unfaulty⟩, registers, ?_, ?_,
    odd,
    uneven [] [.nil] odd⟩
  · exact (called (.text "a") nofun).1 _ rfl nofun
  · obtain ⟨e, after, fails, root, rfl | rfl⟩ := (called .nil nofun).2 _ rfl
    · exact ⟨e, fails, root⟩
    · exact ⟨e, fails, root⟩

end PluginLisp
