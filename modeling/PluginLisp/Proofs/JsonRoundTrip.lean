import PluginLisp.Proofs.Evaluation.BuiltinCalls
import PluginLisp.Proofs.Json.Reading
import PluginLisp.Proofs.TailPositions

/-!
From values to JSON and back. A value that has a document comes back equal, but for what JSON does not
know, and from then on stays what it is. In a program the text lies between the two directions. With
libraries that keep documents it is written at any depth, compact or pretty, but read only down to the
limit (`Value.json_round_trip`).

Main result: `Value.json_round_trip`.
-/

namespace PluginLisp

open Machine World Evaluator

/-- Equal values with the same constructors in the same places. -/
def Value.SameData (a b : Value) : Prop := a.equal b = true ∧ a.outline = b.outline

/-- A call of `json-decode` on what `json-encode` makes of a form, which may be asked for the pretty
    variant. -/
def jsonRoundTrip (form : Form) (options : List Form) : Form :=
  Primitive.on (.json .decode) [Primitive.on (.json .encode) (form :: options)]

/-! ### What the builtins do -/

namespace JsonOp

open Json

variable {libraries : Libraries} {text reason : String} {j : Json}

theorem apply_encode (libraries : Libraries) {v : Value} (encodes : v.toJson = .ok j)
    (options : List Value) :
    encode.apply libraries (v :: options) =
      .ok (.text (libraries.writeJson (options.headD .nil).isTruthy j)) := by
  rw [apply, encodes]
  rfl

theorem apply_decode_ok (reads : libraries.readJson text = .ok j) :
    decode.apply libraries [.text text] = .ok (Value.ofJson j) := by
  simp [apply, Value.asText, reads, bind, Except.bind, pure, Except.pure]

theorem apply_decode_error (refuses : libraries.readJson text = .error reason) :
    decode.apply libraries [.text text] = .error (.json reason) := by
  simp [apply, Value.asText, refuses, bind, Except.bind]

end JsonOp

theorem Value.isPlain_ofJson (j : Json) : (Value.ofJson j).IsPlain := by
  cases j <;> nofun

/-! ### Calls -/

namespace World

variable {settings : Settings} {scope : Nat} {w u after : World} {form : Form} {options : List Form}
  {v : Value} {values : List Value} {j : Json}

/-- Encoding asks for nothing but a document. -/
theorem evaluates_jsonEncode (encodes : v.toJson = .ok j)
    (registers : w.Registers settings (.json .encode))
    (evaluates : w.Evaluates settings .deferred form scope (.ok v) u)
    (inTurn : u.EvaluatesInTurn settings scope options values after) (few : options.length ≤ 1) :
    w.Evaluates settings .deferred (Primitive.on (.json .encode) (form :: options)) scope
      (.ok (.text (settings.libraries.writeJson (values.headD .nil).isTruthy j))) after := by
  have counted : (Primitive.json .encode).count.check (Primitive.json .encode).name
      (form :: options).length = .ok () := by
    have two : options.length + 1 ≤ 2 := Nat.succ_le_succ few
    simp [Primitive.count, JsonOp.count, ArgCount.check, ArgCount.allows, two]
  have applied := JsonOp.apply_encode settings.libraries encodes values
  exact evaluates_on_ok registers counted (.cons evaluates inTurn) 0
    (fun _ _ => ends_ofExcept_iff.2 ⟨applied, rfl⟩) (Value.isPlain_text _)

variable (keeps : settings.libraries.KeepsJson) (encodes : v.toJson = .ok j) (exact : j.Exact)
  (encoder : w.Registers settings (.json .encode)) (decoder : w.Registers settings (.json .decode))
  (evaluates : w.Evaluates settings .deferred form scope (.ok v) u)
  (inTurn : u.EvaluatesInTurn settings scope options values after) (few : options.length ≤ 1)
include keeps encodes exact encoder decoder evaluates inTurn few

/-- Below the limit the value of the document is what comes back. -/
theorem evaluates_jsonRoundTrip (shallow : j.nesting < 128) :
    w.Evaluates settings .deferred (jsonRoundTrip form options) scope (.ok (.ofJson j)) after := by
  have written := evaluates_jsonEncode encodes encoder evaluates inTurn few
  have applied := JsonOp.apply_decode_ok (keeps.reads (values.headD .nil).isTruthy j exact shallow)
  exact evaluates_on_ok decoder rfl (.cons written (.nil after)) 0
    (fun _ _ => ends_ofExcept_iff.2 ⟨applied, rfl⟩) (Value.isPlain_ofJson j)

/-- At the limit the text is written, but not read. -/
theorem exists_evaluates_jsonRoundTrip_error (deep : 128 ≤ j.nesting) :
    ∃ e reason, w.Evaluates settings .deferred (jsonRoundTrip form options) scope (.error e) after ∧
      e.root = .json reason := by
  have written := evaluates_jsonEncode encodes encoder evaluates inTurn few
  obtain ⟨reason, refuses⟩ := keeps.refuses (values.headD .nil).isTruthy j exact deep
  have applied := JsonOp.apply_decode_error refuses
  have ends : after.Ends (Machine.ofExcept (JsonOp.decode.apply settings.libraries
      [.text (settings.libraries.writeJson (values.headD .nil).isTruthy j)]))
      (.error (.json reason)) after := by
    rw [applied]
    exact ends_of_done rfl nofun
  obtain ⟨e, fails, root⟩ :=
    evaluates_on_error decoder rfl (.cons written (.nil after)) 0 fun _ _ => ends
  exact ⟨e, reason, fails, root⟩

end World

/-- Exactly the data with finite numbers has a document. What is read from the document is the value
    without the differences that JSON does not know, and it comes back as it is from its own document.
    If the numbers are integers of at most fifty-three binary digits and the libraries keep documents,
    a program that encodes the value and decodes the text, compact or pretty, gets the same as long as
    arrays and objects nest at most 127 deep, and an error of JSON if they nest deeper. -/
theorem Value.json_round_trip (v : Value) (inOrder : v.InOrder) :
    ((∃ j, v.toJson = .ok j) ↔ v.IsData fun x => Number.isFinite x = true) ∧
    (∀ j, v.toJson = .ok j →
      (ofJson j).SameData v.normalized ∧ ∃ j', (ofJson j).toJson = .ok j' ∧ ofJson j' = ofJson j) ∧
    (v.IsData IsSafeInteger →
      ∀ (settings : Settings) (scope : Nat) (w u after : World) (form : Form) (options : List Form)
        (values : List Value), settings.libraries.KeepsJson →
        w.Registers settings (.json .encode) → w.Registers settings (.json .decode) →
        w.Evaluates settings .deferred form scope (.ok v) u →
        u.EvaluatesInTurn settings scope options values after → options.length ≤ 1 →
        (v.nesting ≤ 127 → ∃ r, r.SameData v.normalized ∧
          w.Evaluates settings .deferred (jsonRoundTrip form options) scope (.ok r) after) ∧
        (127 < v.nesting → ∃ e message, e.root = .json message ∧
          w.Evaluates settings .deferred (jsonRoundTrip form options) scope (.error e) after)) := by
  have told {j : Json} (encodes : v.toJson = .ok j) : v.ToldBy j := toldBy_of_toJson v j encodes
  have same {j : Json} (encodes : v.toJson = .ok j) : (ofJson j).SameData v.normalized :=
    ⟨(told encodes).equal inOrder, (told encodes).outline⟩
  refine ⟨exists_toJson_iff v, fun j encodes => ⟨same encodes, j, (told encodes).again, rfl⟩, ?_⟩
  intro integers settings scope w u after form options values keeps encoder decoder evaluates inTurn few
  obtain ⟨j, encodes⟩ :=
    (exists_toJson_iff v).2 (IsData.mono (fun _ => IsSafeInteger.isFinite) v integers)
  have exact := exact_of_toJson v j integers inOrder encodes
  have nesting := (told encodes).nesting
  constructor
  · intro shallow
    have below : j.nesting < 128 := nesting ▸ Nat.lt_succ_of_le shallow
    exact ⟨ofJson j, same encodes,
      evaluates_jsonRoundTrip keeps encodes exact encoder decoder evaluates inTurn few below⟩
  · intro deep
    have above : 128 ≤ j.nesting := nesting ▸ deep
    obtain ⟨e, reason, fails, root⟩ :=
      exists_evaluates_jsonRoundTrip_error keeps encodes exact encoder decoder evaluates inTurn few above
    exact ⟨e, reason, root, fails⟩

/-- An empty list inside a number of other ones. -/
def Value.lists : Nat → Value
  | 0 => .list []
  | n + 1 => .list [lists n]

theorem Value.nesting_lists (n : Nat) : (lists n).nesting = n + 1 := by
  induction n with
  | zero => rfl
  | succ n ih => rw [lists, nesting, nestingAll, nestingAll, ih, Nat.max_zero]

theorem Value.inOrder_lists (n : Nat) : (lists n).InOrder := by
  induction n with
  | zero => trivial
  | succ n ih => exact ⟨ih, trivial⟩

theorem Value.isData_lists (number : Float → Prop) (n : Nat) : (lists n).IsData number := by
  induction n with
  | zero => trivial
  | succ n ih => exact ⟨ih, trivial⟩

/-- A world with the builtins for JSON. -/
def withJson : World where
  state := {
    managers := #[{ registry := ⟨[
      ("json-decode", .ofBuiltin "json" (.primitive (.json .decode))),
      ("json-encode", .ofBuiltin "json" (.primitive (.json .encode)))]⟩ }]
    scopes := #[{}] }

/-- A map comes back from its pretty text, and one list more than the limit allows does not. -/
theorem Value.json_round_trip_at_limit :
    let entries : Value := .map [("a", .list [.number (Number.ofInt 1), .keyword "k"]), ("b", .nil)]
    (entries.InOrder ∧ ∃ r, r.SameData entries.normalized ∧
      withJson.Evaluates {} .deferred (jsonRoundTrip (.literal entries) [.literal (.boolean true)]) 0
        (.ok r) withJson) ∧
    ((lists 127).InOrder ∧ ∃ e message, e.root = .json message ∧
      withJson.Evaluates {} .deferred (jsonRoundTrip (.literal (lists 127)) []) 0 (.error e)
        withJson) := by
  intro entries
  have encoder : withJson.Registers {} (.json .encode) := ⟨_, rfl, rfl⟩
  have decoder : withJson.Registers {} (.json .decode) := ⟨_, rfl, rfl⟩
  have sorted : Assoc.Sorted [("a", Value.list [.number (Number.ofInt 1), .keyword "k"]), ("b", .nil)] :=
    List.pairwise_pair.2 (by decide)
  have inOrder : entries.InOrder := ⟨sorted, ⟨trivial, trivial, trivial⟩, trivial, trivial⟩
  have one : IsSafeInteger (Number.ofInt 1) := ⟨1, numeric?_ofInt (by decide), by decide⟩
  have integers : entries.IsData IsSafeInteger := ⟨⟨one, trivial, trivial⟩, trivial, trivial⟩
  obtain ⟨-, -, shallow⟩ := json_round_trip entries inOrder
  obtain ⟨-, -, deep⟩ := json_round_trip (lists 127) (inOrder_lists 127)
  refine ⟨⟨inOrder, ?_⟩, inOrder_lists 127, ?_⟩
  · have inTurn : withJson.EvaluatesInTurn {} 0 [.literal (.boolean true)] [.boolean true] withJson :=
      .cons (evaluates_literal nofun) (.nil _)
    exact (shallow integers {} 0 _ _ _ _ _ _ Libraries.standard_keepsJson encoder decoder
      (evaluates_literal nofun) inTurn (Nat.le_refl 1)).1 (by decide)
  · have plain : (Value.list [lists 126]).IsPlain := nofun
    have above : 127 < (lists 127).nesting := (nesting_lists 127).symm ▸ Nat.lt_succ_self 127
    exact (deep (isData_lists _ 127) {} 0 _ _ _ _ _ _ Libraries.standard_keepsJson encoder decoder
      (evaluates_literal plain) (.nil _) (Nat.zero_le 1)).2 above

end PluginLisp
