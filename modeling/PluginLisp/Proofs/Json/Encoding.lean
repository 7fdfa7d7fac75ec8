import PluginLisp.Builtin.Json
import PluginLisp.Proofs.Data.Equality
import PluginLisp.Proofs.Data.Results
import PluginLisp.Proofs.Number.Integral

/-!
Values and JSON documents. A value has a document exactly if it is made, through lists, vectors and
maps, of what JSON can tell. The document forgets the difference between a list and a vector, between
a text, a keyword and a symbol, and between a decimal and its text; nothing else is lost but the sign
of a zero, and a value that comes from a document has that document.

Main results: `Value.exists_toJson_iff`, `Value.toldBy_of_toJson`, `Value.ToldBy.equal`.
-/

namespace PluginLisp

open Number

/-! ### Data -/

mutual

/-- Whether a value is made, through lists, vectors and maps, of `nil`, booleans, decimals, texts,
    keywords, symbols, and numbers that have a property. -/
def Value.IsData (number : Float → Prop) : Value → Prop
  | .nil | .boolean _ | .decimal _ | .text _ | .keyword _ | .symbol _ => True
  | .number x => number x
  | .list items => Value.AllData number items
  | .vector items => Value.AllData number items
  | .map entries => Value.EntriesData number entries
  | _ => False

/-- Whether all of the values are. -/
def Value.AllData (number : Float → Prop) : List Value → Prop
  | [] => True
  | v :: rest => v.IsData number ∧ Value.AllData number rest

/-- Whether the values of all entries are. -/
def Value.EntriesData (number : Float → Prop) : List (String × Value) → Prop
  | [] => True
  | (_, v) :: rest => v.IsData number ∧ Value.EntriesData number rest

end

mutual

/-- A value without the differences that JSON does not know: lists are vectors, keywords and symbols are
    texts, and so are decimals. -/
def Value.normalized : Value → Value
  | .decimal d => .text d.text
  | .keyword name => .text name
  | .symbol name => .text name
  | .list items => .vector (Value.normalizedAll items)
  | .vector items => .vector (Value.normalizedAll items)
  | .map entries => .map (Value.normalizedEntries entries)
  | v => v

/-- Several values without the differences that JSON does not know. -/
def Value.normalizedAll : List Value → List Value
  | [] => []
  | v :: rest => v.normalized :: Value.normalizedAll rest

/-- Entries whose values are without the differences that JSON does not know. -/
def Value.normalizedEntries : List (String × Value) → List (String × Value)
  | [] => []
  | (key, v) :: rest => (key, v.normalized) :: Value.normalizedEntries rest

end

mutual

/-- A value with zero in place of each number. Values with the same outline have the same constructors
    in the same places, and all but their numbers in common. -/
def Value.outline : Value → Value
  | .number _ => .number 0
  | .list items => .list (Value.outlineAll items)
  | .vector items => .vector (Value.outlineAll items)
  | .map entries => .map (Value.outlineEntries entries)
  | v => v

/-- Several values with zero in place of each number. -/
def Value.outlineAll : List Value → List Value
  | [] => []
  | v :: rest => v.outline :: Value.outlineAll rest

/-- Entries with zero in place of each number. -/
def Value.outlineEntries : List (String × Value) → List (String × Value)
  | [] => []
  | (key, v) :: rest => (key, v.outline) :: Value.outlineEntries rest

end

mutual

/-- How deep lists, vectors and maps nest in a value. -/
def Value.nesting : Value → Nat
  | .list items => Value.nestingAll items + 1
  | .vector items => Value.nestingAll items + 1
  | .map entries => Value.nestingEntries entries + 1
  | _ => 0

/-- How deep they nest in the values. -/
def Value.nestingAll : List Value → Nat
  | [] => 0
  | v :: rest => max v.nesting (Value.nestingAll rest)

/-- How deep they nest in the values of the entries. -/
def Value.nestingEntries : List (String × Value) → Nat
  | [] => 0
  | (_, v) :: rest => max v.nesting (Value.nestingEntries rest)

end

mutual

/-- How deep arrays and objects nest in a document. -/
def Json.nesting : Json → Nat
  | .array items => Json.nestingAll items + 1
  | .object members => Json.nestingMembers members + 1
  | _ => 0

/-- How deep they nest in the documents. -/
def Json.nestingAll : List Json → Nat
  | [] => 0
  | j :: rest => max j.nesting (Json.nestingAll rest)

/-- How deep they nest in the members. -/
def Json.nestingMembers : List (String × Json) → Nat
  | [] => 0
  | (_, j) :: rest => max j.nesting (Json.nestingMembers rest)

end

/-- A float that is an integer of at most fifty-three binary digits. -/
def Value.IsSafeInteger (x : Float) : Prop :=
  ∃ n : Int, (Value.number x).numeric? = some (n : ℚ) ∧ n.natAbs < 2 ^ 53

/-! ### Numbers -/

namespace Value

/-- A float is finite if it has a finite kind. -/
theorem isFinite_iff {x : Float} : isFinite x = true ↔ ∃ b, Kind.ofFloat x = .finite b := by
  unfold isFinite
  split
  · next b finite => simp [finite]
  · next other => simpa using other

/-- A safe integer is finite. -/
theorem IsSafeInteger.isFinite {x : Float} (safe : IsSafeInteger x) : isFinite x = true := by
  obtain ⟨n, value, -⟩ := safe
  obtain ⟨b, finite, -⟩ := numeric?_number_eq_some.1 value
  exact isFinite_iff.2 ⟨b, finite⟩

/-- The numbers that are encoded as integers. -/
theorem isSafeInteger_iff {x : Float} :
    (isIntegral x && x.abs < Json.integerLimit) = true ↔ IsSafeInteger x := by
  have limit : Json.integerLimit = 9007199254740992.0 := rfl
  simp only [IsSafeInteger, numeric?_number_eq_some, Bool.and_eq_true, decide_eq_true_eq, limit]
  constructor
  · rintro ⟨integral, below⟩
    obtain ⟨b, finite⟩ : ∃ b, Kind.ofFloat x = .finite b := by
      unfold isIntegral at integral
      split at integral
      · exact ⟨_, ‹_›⟩
      · cases integral
    rw [isIntegral, finite] at integral
    obtain ⟨n, value⟩ := Binary.isIntegral_iff.1 integral
    rw [abs_lt_iff finite, ← b.abs_value, value] at below
    refine ⟨n, ⟨b, finite, value⟩, ?_⟩
    zify
    exact_mod_cast below
  · rintro ⟨n, ⟨b, finite, value⟩, small⟩
    rw [isIntegral, finite, abs_lt_iff finite, ← b.abs_value, value]
    refine ⟨Binary.isIntegral_iff.2 ⟨n, value⟩, ?_⟩
    zify at small
    exact_mod_cast small

/-- A small integral float becomes an integer. -/
theorem toJson_of_integer {x : Float} {n : Int} (value : (number x).numeric? = some (n : ℚ))
    (small : n.natAbs < 2 ^ 53) : (number x).toJson = .ok (.integer n) := by
  obtain ⟨b, finite, same⟩ := numeric?_number_eq_some.1 value
  have integral := Binary.isIntegral_iff.2 ⟨n, same⟩
  have truncated : b.truncated = n := by
    rw [Binary.value_of_isIntegral integral] at same
    exact_mod_cast same
  have word : toWord x = n := by
    rw [toWord, finite]
    simp only [truncated]
    exact clampWord_eq_self_iff.2 (fitsWord_iff.2 (by omega))
  rw [toJson, if_pos (isSafeInteger_iff.2 ⟨n, value, small⟩), word]

/-- Any other finite float stays a float. -/
theorem toJson_of_fraction {x : Float} (finite : isFinite x = true) (other : ¬ IsSafeInteger x) :
    (number x).toJson = .ok (.float x) := by
  rw [toJson, if_neg (mt isSafeInteger_iff.1 other), if_pos finite]

/-- An infinity or NaN has no document. -/
theorem toJson_of_not_finite {x : Float} (infinite : ¬ isFinite x = true) :
    (number x).toJson = .error (.json ("cannot encode " ++ Number.display x ++ " as JSON")) := by
  have other : ¬ IsSafeInteger x := mt IsSafeInteger.isFinite infinite
  rw [toJson, if_neg (mt isSafeInteger_iff.1 other), if_neg infinite]

/-- The float that is read for an integer has the value of the integer. -/
theorem numeric?_ofInt {n : Int} (small : n.natAbs < 2 ^ 53) :
    (number (ofInt n)).numeric? = some (n : ℚ) :=
  numeric?_number_eq_some.2 (value_ofInt small)

/-- The float that is read for an integer is equal to every float that is the integer. -/
theorem ofInt_beq {x : Float} {n : Int} (value : (number x).numeric? = some (n : ℚ)) :
    (ofInt n == x) = true := by
  obtain ⟨b, finite, same⟩ := numeric?_number_eq_some.1 value
  have number : x ≠ Float.nan := by
    rintro rfl
    rw [Kind.ofFloat_eq_nan_iff.2 rfl] at finite
    cases finite
  rcases eq_ofInt finite same with rfl | ⟨rfl, rfl⟩
  · exact Float.beq_self_iff.2 number
  · decide +kernel

/-! ### Results -/

/-- Values have documents if the first and the others have. -/
theorem toJsonAll_cons {v : Value} {rest : List Value} {js : List Json} :
    Value.toJsonAll (v :: rest) = .ok js ↔
      ∃ j, v.toJson = .ok j ∧ ∃ more, Value.toJsonAll rest = .ok more ∧ js = j :: more := by
  simp only [Value.toJsonAll, bind_eq_ok_iff, pure, Except.pure, Except.ok.injEq, @eq_comm _ js]

theorem toJsonMembers_cons {key : String} {v : Value} {rest : List (String × Value)}
    {members : List (String × Json)} :
    Value.toJsonMembers ((key, v) :: rest) = .ok members ↔
      ∃ j, v.toJson = .ok j ∧ ∃ more, Value.toJsonMembers rest = .ok more ∧
        members = (key, j) :: more := by
  simp only [Value.toJsonMembers, bind_eq_ok_iff, pure, Except.pure, Except.ok.injEq, @eq_comm _ members]

/-! ### What has a document -/

mutual

/-- A value has a document exactly if it is data with finite numbers. -/
theorem exists_toJson_iff : ∀ v : Value,
    (∃ j, v.toJson = .ok j) ↔ v.IsData (fun x => Number.isFinite x = true)
  | .number x => by
      by_cases finite : Number.isFinite x = true
      · by_cases safe : IsSafeInteger x
        · obtain ⟨n, value, small⟩ := safe
          exact iff_of_true ⟨_, toJson_of_integer value small⟩ finite
        · exact iff_of_true ⟨_, toJson_of_fraction finite safe⟩ finite
      · rw [toJson_of_not_finite finite]
        exact iff_of_false nofun finite
  | .list items => by
      simp only [toJson, map_eq_ok_iff, IsData, ← exists_toJsonAll_iff items]
      exact exists_comm.trans (by simp)
  | .vector items => by
      simp only [toJson, map_eq_ok_iff, IsData, ← exists_toJsonAll_iff items]
      exact exists_comm.trans (by simp)
  | .map entries => by
      simp only [toJson, map_eq_ok_iff, IsData, ← exists_toJsonMembers_iff entries]
      exact exists_comm.trans (by simp)
  | .nil | .boolean _ | .decimal _ | .text _ | .keyword _ | .symbol _ => iff_of_true ⟨_, rfl⟩ trivial
  | .function _ | .transformer _ | .builtin _ | .operator _ | .partialCall _ _ | .complement _ | .juxt _
  | .comp _ | .atom _ | .channel _ | .future _ | .waitGroup _ | .pending _ _ => iff_of_false nofun id

/-- Values have documents if all of them are data. -/
theorem exists_toJsonAll_iff : ∀ vs : List Value,
    (∃ js, toJsonAll vs = .ok js) ↔ AllData (fun x => Number.isFinite x = true) vs
  | [] => iff_of_true ⟨_, rfl⟩ trivial
  | v :: rest => by
      rw [AllData, ← exists_toJson_iff v, ← exists_toJsonAll_iff rest]
      constructor
      · rintro ⟨js, encodes⟩
        obtain ⟨j, first, more, others, -⟩ := toJsonAll_cons.1 encodes
        exact ⟨⟨j, first⟩, more, others⟩
      · rintro ⟨⟨j, first⟩, more, others⟩
        exact ⟨j :: more, toJsonAll_cons.2 ⟨j, first, more, others, rfl⟩⟩

theorem exists_toJsonMembers_iff : ∀ entries : List (String × Value),
    (∃ members, toJsonMembers entries = .ok members) ↔
      EntriesData (fun x => Number.isFinite x = true) entries
  | [] => iff_of_true ⟨_, rfl⟩ trivial
  | (key, v) :: rest => by
      rw [EntriesData, ← exists_toJson_iff v, ← exists_toJsonMembers_iff rest]
      constructor
      · rintro ⟨members, encodes⟩
        obtain ⟨j, first, more, others, -⟩ := toJsonMembers_cons.1 encodes
        exact ⟨⟨j, first⟩, more, others⟩
      · rintro ⟨⟨j, first⟩, more, others⟩
        exact ⟨(key, j) :: more, toJsonMembers_cons.2 ⟨j, first, more, others, rfl⟩⟩

end

/-! ### What a document tells -/

/-- What is left of a value in its document: the value that is read from it has the document again,
    and it has the outline and the meaning of the value without the differences that JSON does not
    know. -/
structure ToldBy (v : Value) (j : Json) : Prop where
  again : (ofJson j).toJson = .ok j
  outline : (ofJson j).outline = v.normalized.outline
  means : ∃ m, (ofJson j).meaning = some m ∧ v.normalized.meaning = some m
  nesting : j.nesting = v.nesting

/-- The same of several values. -/
structure AllToldBy (vs : List Value) (js : List Json) : Prop where
  again : toJsonAll (ofJsonAll js) = .ok js
  outline : outlineAll (ofJsonAll js) = outlineAll (normalizedAll vs)
  means : ∃ ms, meaningAll (ofJsonAll js) = some ms ∧ meaningAll (normalizedAll vs) = some ms
  nesting : Json.nestingAll js = nestingAll vs

/-- The same of the values of entries. -/
structure EntriesToldBy (entries : List (String × Value)) (members : List (String × Json)) : Prop where
  again : toJsonMembers (ofJsonMembers members) = .ok members
  outline : outlineEntries (ofJsonMembers members) = outlineEntries (normalizedEntries entries)
  means : ∃ ms, meaningEntries (ofJsonMembers members) = some ms ∧
    meaningEntries (normalizedEntries entries) = some ms
  nesting : Json.nestingMembers members = nestingEntries entries

/-- A vector is told by the array that tells its elements. -/
theorem AllToldBy.vector {vs : List Value} {js : List Json} (told : AllToldBy vs js) :
    (vector vs).ToldBy (.array js) := by
  obtain ⟨ms, left, right⟩ := told.means
  refine ⟨?_, ?_, ⟨.sequence ms, ?_, ?_⟩, ?_⟩
  · rw [ofJson, toJson, told.again]
    rfl
  · rw [ofJson, Value.outline, told.outline]
    rfl
  · rw [ofJson, meaning, left]
    rfl
  · rw [normalized, meaning, right]
    rfl
  · rw [Json.nesting, told.nesting, Value.nesting]

/-- A list is told by the array of its elements. -/
theorem AllToldBy.list {vs : List Value} {js : List Json} (told : AllToldBy vs js) :
    (list vs).ToldBy (.array js) :=
  ⟨told.vector.again, told.vector.outline, told.vector.means, told.vector.nesting⟩

/-- A map is told by the object of its entries. -/
theorem EntriesToldBy.map {entries : List (String × Value)} {members : List (String × Json)}
    (told : EntriesToldBy entries members) : (map entries).ToldBy (.object members) := by
  obtain ⟨ms, left, right⟩ := told.means
  refine ⟨?_, ?_, ⟨.table ms, ?_, ?_⟩, ?_⟩
  · rw [ofJson, toJson, told.again]
    rfl
  · rw [ofJson, Value.outline, told.outline]
    rfl
  · rw [ofJson, meaning, left]
    rfl
  · rw [normalized, meaning, right]
    rfl
  · rw [Json.nesting, told.nesting, Value.nesting]

/-- A number is told by its document. -/
theorem toldBy_of_number {x : Float} {j : Json} (encodes : (number x).toJson = .ok j) :
    (number x).ToldBy j := by
  have finite : Number.isFinite x = true := (exists_toJson_iff (number x)).1 ⟨j, encodes⟩
  by_cases safe : IsSafeInteger x
  · obtain ⟨n, value, small⟩ := safe
    rw [toJson_of_integer value small] at encodes
    cases encodes
    exact ⟨toJson_of_integer (numeric?_ofInt small) small, rfl, Meaning.beq_iff.1 (ofInt_beq value), rfl⟩
  · have encoded := toJson_of_fraction finite safe
    obtain rfl := Except.ok.inj (encoded.symm.trans encodes)
    refine ⟨encoded, rfl, ?_, rfl⟩
    have number : x ≠ Float.nan := by
      rintro rfl
      exact absurd finite (by decide +kernel)
    obtain ⟨m, means⟩ := Option.isSome_iff_exists.1 (Meaning.ofFloat?_isSome_iff.2 number)
    exact ⟨m, means, means⟩

mutual

/-- The document of a value tells all of it that JSON knows. -/
theorem toldBy_of_toJson : ∀ (v : Value) (j : Json), v.toJson = .ok j → v.ToldBy j
  | .number x, j, encodes => toldBy_of_number encodes
  | .list items, j, encodes => by
      obtain ⟨js, all, rfl⟩ := map_eq_ok_iff.1 encodes
      exact (allToldBy_of_toJsonAll items js all).list
  | .vector items, j, encodes => by
      obtain ⟨js, all, rfl⟩ := map_eq_ok_iff.1 encodes
      exact (allToldBy_of_toJsonAll items js all).vector
  | .map entries, j, encodes => by
      obtain ⟨members, all, rfl⟩ := map_eq_ok_iff.1 encodes
      exact (entriesToldBy_of_toJsonMembers entries members all).map
  | .nil, j, encodes | .boolean _, j, encodes | .decimal _, j, encodes | .text _, j, encodes
  | .keyword _, j, encodes | .symbol _, j, encodes => by
      cases encodes
      exact ⟨rfl, rfl, ⟨_, rfl, rfl⟩, rfl⟩
  | .function _, _, encodes | .transformer _, _, encodes | .builtin _, _, encodes
  | .operator _, _, encodes | .partialCall _ _, _, encodes | .complement _, _, encodes
  | .juxt _, _, encodes | .comp _, _, encodes | .atom _, _, encodes | .channel _, _, encodes
  | .future _, _, encodes | .waitGroup _, _, encodes | .pending _ _, _, encodes => nomatch encodes

theorem allToldBy_of_toJsonAll : ∀ (vs : List Value) (js : List Json), toJsonAll vs = .ok js →
    AllToldBy vs js
  | [], _, rfl => ⟨rfl, rfl, ⟨[], rfl, rfl⟩, rfl⟩
  | v :: rest, _, encodes => by
      obtain ⟨j, first, more, others, rfl⟩ := toJsonAll_cons.1 encodes
      obtain ⟨again, outline, ⟨m, left, right⟩, nesting⟩ := toldBy_of_toJson v j first
      obtain ⟨again', outline', ⟨ms, left', right'⟩, nesting'⟩ := allToldBy_of_toJsonAll rest more others
      refine ⟨toJsonAll_cons.2 ⟨j, again, more, again', rfl⟩, ?_, ⟨m :: ms, ?_, ?_⟩, ?_⟩
      · simp [ofJsonAll, outlineAll, normalizedAll, outline, outline']
      · simp [ofJsonAll, meaningAll, left, left']
      · simp [normalizedAll, meaningAll, right, right']
      · rw [Json.nestingAll, nestingAll, nesting, nesting']

theorem entriesToldBy_of_toJsonMembers : ∀ (entries : List (String × Value))
    (members : List (String × Json)), toJsonMembers entries = .ok members →
      EntriesToldBy entries members
  | [], _, rfl => ⟨rfl, rfl, ⟨[], rfl, rfl⟩, rfl⟩
  | (key, v) :: rest, _, encodes => by
      obtain ⟨j, first, more, others, rfl⟩ := toJsonMembers_cons.1 encodes
      obtain ⟨again, outline, ⟨m, left, right⟩, nesting⟩ := toldBy_of_toJson v j first
      obtain ⟨again', outline', ⟨ms, left', right'⟩, nesting'⟩ :=
        entriesToldBy_of_toJsonMembers rest more others
      refine ⟨toJsonMembers_cons.2 ⟨j, again, more, again', rfl⟩, ?_, ⟨(key, m) :: ms, ?_, ?_⟩, ?_⟩
      · simp [ofJsonMembers, outlineEntries, normalizedEntries, outline, outline']
      · simp [ofJsonMembers, meaningEntries, left, left']
      · simp [normalizedEntries, meaningEntries, right, right']
      · rw [Json.nestingMembers, nestingEntries, nesting, nesting']

end

/-! ### Sorted entries -/

/-- Entries are sorted by their keys only. -/
theorem sorted_of_names_eq {first : Assoc α} {second : Assoc β} (sorted : Assoc.Sorted first)
    (same : Assoc.names first = Assoc.names second) : Assoc.Sorted second := by
  have ascending : (Assoc.names first).Pairwise (· < ·) := List.pairwise_map.2 sorted
  rw [same] at ascending
  exact List.pairwise_map.1 ascending

theorem names_outlineEntries (entries : Assoc Value) :
    Assoc.names (outlineEntries entries) = Assoc.names entries := by
  induction entries with
  | nil => rfl
  | cons entry rest ih => exact congrArg (entry.1 :: ·) ih

theorem names_normalizedEntries (entries : Assoc Value) :
    Assoc.names (normalizedEntries entries) = Assoc.names entries := by
  induction entries with
  | nil => rfl
  | cons entry rest ih => exact congrArg (entry.1 :: ·) ih

/-- The members of an object have the names of the entries. -/
theorem names_toJsonMembers {entries : Assoc Value} {members : Assoc Json}
    (encodes : toJsonMembers entries = .ok members) : Assoc.names entries = Assoc.names members := by
  induction entries generalizing members with
  | nil =>
      cases encodes
      rfl
  | cons entry rest ih =>
      obtain ⟨j, -, more, others, rfl⟩ := toJsonMembers_cons.1 encodes
      exact congrArg (entry.1 :: ·) (ih others)

mutual

/-- The outline of a value has its maps sorted if the value has. -/
theorem inOrder_outline_iff : ∀ v : Value, v.outline.InOrder ↔ v.InOrder
  | .list items => allInOrder_outline_iff items
  | .vector items => allInOrder_outline_iff items
  | .map entries => by
      have names := names_outlineEntries entries
      exact and_congr ⟨fun sorted => sorted_of_names_eq sorted names,
        fun sorted => sorted_of_names_eq sorted names.symm⟩ (entriesInOrder_outline_iff entries)
  | .nil | .boolean _ | .number _ | .decimal _ | .text _ | .keyword _ | .symbol _ | .function _
  | .transformer _ | .builtin _ | .operator _ | .partialCall _ _ | .complement _ | .juxt _ | .comp _
  | .atom _ | .channel _ | .future _ | .waitGroup _ | .pending _ _ => Iff.rfl

theorem allInOrder_outline_iff : ∀ vs : List Value, AllInOrder (outlineAll vs) ↔ AllInOrder vs
  | [] => Iff.rfl
  | v :: rest => and_congr (inOrder_outline_iff v) (allInOrder_outline_iff rest)

theorem entriesInOrder_outline_iff : ∀ entries : List (String × Value),
    EntriesInOrder (outlineEntries entries) ↔ EntriesInOrder entries
  | [] => Iff.rfl
  | (_, v) :: rest => and_congr (inOrder_outline_iff v) (entriesInOrder_outline_iff rest)

end

mutual

/-- Normalizing keeps maps sorted. -/
theorem inOrder_normalized : ∀ v : Value, v.InOrder → v.normalized.InOrder
  | .list items, inOrder => allInOrder_normalized items inOrder
  | .vector items, inOrder => allInOrder_normalized items inOrder
  | .map entries, inOrder => ⟨sorted_of_names_eq inOrder.1 (names_normalizedEntries entries).symm,
      entriesInOrder_normalized entries inOrder.2⟩
  | .nil, _ | .boolean _, _ | .number _, _ | .decimal _, _ | .text _, _ | .keyword _, _ | .symbol _, _
  | .function _, _ | .transformer _, _ | .builtin _, _ | .operator _, _ | .partialCall _ _, _
  | .complement _, _ | .juxt _, _ | .comp _, _ | .atom _, _ | .channel _, _ | .future _, _
  | .waitGroup _, _ | .pending _ _, _ => trivial

theorem allInOrder_normalized : ∀ vs : List Value, AllInOrder vs → AllInOrder (normalizedAll vs)
  | [], _ => trivial
  | v :: rest, inOrder => ⟨inOrder_normalized v inOrder.1, allInOrder_normalized rest inOrder.2⟩

theorem entriesInOrder_normalized : ∀ entries : List (String × Value), EntriesInOrder entries →
    EntriesInOrder (normalizedEntries entries)
  | [], _ => trivial
  | (_, v) :: rest, inOrder =>
      ⟨inOrder_normalized v inOrder.1, entriesInOrder_normalized rest inOrder.2⟩

end

/-- What is read from a document is equal to the value without the differences that JSON does not
    know. -/
theorem ToldBy.equal {v : Value} {j : Json} (told : v.ToldBy j) (inOrder : v.InOrder) :
    (ofJson j).equal v.normalized = true := by
  have normalized := inOrder_normalized v inOrder
  have read : (ofJson j).InOrder := by
    rwa [← inOrder_outline_iff, told.outline, inOrder_outline_iff]
  exact (equal_iff _ read _ normalized).2 told.means

end Value

/-! ### Documents with integers only -/

mutual

/-- Whether the numbers of a document are integers that a word of sixty-four bits holds, signed or
    not, and the members of its objects sorted. -/
def Json.Exact : Json → Prop
  | .integer n => -2 ^ 63 ≤ n ∧ n < 2 ^ 64
  | .float _ => False
  | .array items => Json.AllExact items
  | .object members => Assoc.Sorted members ∧ Json.MembersExact members
  | _ => True

/-- Whether it is so in all of the documents. -/
def Json.AllExact : List Json → Prop
  | [] => True
  | j :: rest => j.Exact ∧ Json.AllExact rest

/-- Whether it is so in all of the members. -/
def Json.MembersExact : List (String × Json) → Prop
  | [] => True
  | (_, j) :: rest => j.Exact ∧ Json.MembersExact rest

end

/-- What a JSON library is relied on for. The text of a document whose numbers are integers is read as
    the document, on one line or set out over several, unless arrays and objects nest 128 deep; then
    it is refused. -/
structure Libraries.KeepsJson (libraries : Libraries) : Prop where
  reads : ∀ (pretty : Bool) (j : Json), j.Exact → j.nesting < 128 →
    libraries.readJson (libraries.writeJson pretty j) = .ok j
  refuses : ∀ (pretty : Bool) (j : Json), j.Exact → 128 ≤ j.nesting →
    ∃ reason, libraries.readJson (libraries.writeJson pretty j) = .error reason

namespace Value

mutual

/-- Data with safe integers has an exact document. -/
theorem exact_of_toJson : ∀ (v : Value) (j : Json), v.IsData IsSafeInteger → v.InOrder →
    v.toJson = .ok j → j.Exact
  | .number x, j, ⟨n, value, small⟩, _, encodes => by
      rw [toJson_of_integer value small] at encodes
      cases encodes
      constructor <;> omega
  | .list items, j, data, inOrder, encodes => by
      obtain ⟨js, all, rfl⟩ := map_eq_ok_iff.1 encodes
      exact allExact_of_toJsonAll items js data inOrder all
  | .vector items, j, data, inOrder, encodes => by
      obtain ⟨js, all, rfl⟩ := map_eq_ok_iff.1 encodes
      exact allExact_of_toJsonAll items js data inOrder all
  | .map entries, j, data, inOrder, encodes => by
      obtain ⟨members, all, rfl⟩ := map_eq_ok_iff.1 encodes
      exact ⟨sorted_of_names_eq inOrder.1 (names_toJsonMembers all),
        membersExact_of_toJsonMembers entries members data inOrder.2 all⟩
  | .nil, _, _, _, rfl | .boolean _, _, _, _, rfl | .decimal _, _, _, _, rfl | .text _, _, _, _, rfl
  | .keyword _, _, _, _, rfl | .symbol _, _, _, _, rfl => trivial

theorem allExact_of_toJsonAll : ∀ (vs : List Value) (js : List Json), AllData IsSafeInteger vs →
    AllInOrder vs → toJsonAll vs = .ok js → Json.AllExact js
  | [], _, _, _, rfl => trivial
  | v :: rest, _, data, inOrder, encodes => by
      obtain ⟨j, first, more, others, rfl⟩ := toJsonAll_cons.1 encodes
      exact ⟨exact_of_toJson v j data.1 inOrder.1 first,
        allExact_of_toJsonAll rest more data.2 inOrder.2 others⟩

theorem membersExact_of_toJsonMembers : ∀ (entries : List (String × Value))
    (members : List (String × Json)), EntriesData IsSafeInteger entries → EntriesInOrder entries →
      toJsonMembers entries = .ok members → Json.MembersExact members
  | [], _, _, _, rfl => trivial
  | (key, v) :: rest, _, data, inOrder, encodes => by
      obtain ⟨j, first, more, others, rfl⟩ := toJsonMembers_cons.1 encodes
      exact ⟨exact_of_toJson v j data.1 inOrder.1 first,
        membersExact_of_toJsonMembers rest more data.2 inOrder.2 others⟩

end

mutual

/-- Data with numbers of one kind is data with numbers of a wider one. -/
theorem IsData.mono {p q : Float → Prop} (wider : ∀ x, p x → q x) :
    ∀ v : Value, v.IsData p → v.IsData q
  | .number x, holds => wider x holds
  | .list items, data => AllData.mono wider items data
  | .vector items, data => AllData.mono wider items data
  | .map entries, data => EntriesData.mono wider entries data
  | .nil, _ | .boolean _, _ | .decimal _, _ | .text _, _ | .keyword _, _ | .symbol _, _ => trivial

theorem AllData.mono {p q : Float → Prop} (wider : ∀ x, p x → q x) :
    ∀ vs : List Value, AllData p vs → AllData q vs
  | [], _ => trivial
  | v :: rest, data => ⟨IsData.mono wider v data.1, AllData.mono wider rest data.2⟩

theorem EntriesData.mono {p q : Float → Prop} (wider : ∀ x, p x → q x) :
    ∀ entries : List (String × Value), EntriesData p entries → EntriesData q entries
  | [], _ => trivial
  | (_, v) :: rest, data => ⟨IsData.mono wider v data.1, EntriesData.mono wider rest data.2⟩

end

end Value

end PluginLisp
