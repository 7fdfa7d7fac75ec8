import PluginLisp.Proofs.Evaluation.BuiltinCalls
import Mathlib.Data.List.Infix

/-!
Splitting and joining texts. The pieces between the occurrences of a separator, joined by it again, are
the text they come from; none of them contains the separator, and there is one more of them than there
are occurrences when these are found from the left and do not overlap.

Main result: `join_undoes_split`.
-/

namespace PluginLisp

namespace Text

/-! ### Occurrences -/

/-- The separator stands at a position of a text. -/
def StandsAt (separator cs : List Char) (i : Nat) : Prop := separator <+: cs.drop i

/-- The positions of a separator found from the left: each is the first one from the end of the one
    before. -/
inductive FoundFrom (separator cs : List Char) : Nat → List Nat → Prop where
  | done {start} (missing : ∀ i, start ≤ i → ¬ StandsAt separator cs i) :
      FoundFrom separator cs start []
  | next {start i further} (behind : start ≤ i) (here : StandsAt separator cs i)
      (first : ∀ j, start ≤ j → j < i → ¬ StandsAt separator cs j)
      (rest : FoundFrom separator cs (i + separator.length) further) :
      FoundFrom separator cs start (i :: further)

/-- A text cut into pieces: a piece ends where the separator stands for the first time, and in the last
    one it stands nowhere. -/
inductive Cuts (separator : List Char) : List Char → List (List Char) → Prop where
  | last {piece} (missing : ∀ i, ¬ StandsAt separator piece i) : Cuts separator piece [piece]
  | cut {piece rest pieces}
      (first : ∀ i < piece.length, ¬ StandsAt separator (piece ++ (separator ++ rest)) i)
      (others : Cuts separator rest pieces) :
      Cuts separator (piece ++ (separator ++ rest)) (piece :: pieces)

variable {separator piece front cs : List Char} {i start : Nat} {positions others : List Nat}
  {pieces : List (List Char)}

theorem FoundFrom.unique (found : FoundFrom separator cs start positions)
    (again : FoundFrom separator cs start others) : positions = others := by
  induction found generalizing others with
  | done missing =>
      cases again with
      | done => rfl
      | next behind here => exact absurd here (missing _ behind)
  | @next start i further behind here first rest ih =>
      cases again with
      | done missing => exact absurd here (missing _ behind)
      | @next _ i' further' behind' here' first' rest' =>
          have same : i = i' := by
            rcases Nat.lt_trichotomy i i' with less | same | more
            · exact absurd here (first' i behind less)
            · exact same
            · exact absurd here' (first i' behind' more)
          subst same
          rw [ih rest']

theorem standsAt_append : StandsAt separator (front ++ cs) (front.length + i) ↔
    StandsAt separator cs i := by
  rw [StandsAt, List.drop_append, List.drop_eq_nil_of_le (Nat.le_add_right _ _), List.nil_append,
    Nat.add_sub_cancel_left, StandsAt]

theorem standsAt_length : StandsAt separator (front ++ cs) front.length ↔ separator <+: cs := by
  rw [StandsAt, List.drop_left]

/-- A non-empty text does not stand at or behind an end. -/
theorem not_standsAt_of_le (nonempty : separator ≠ []) (outside : cs.length ≤ i) :
    ¬ StandsAt separator cs i := by
  rw [StandsAt, List.drop_eq_nil_of_le outside, List.prefix_nil]
  exact nonempty

/-! ### Pieces -/

theorem cuts_splitFrom (nonempty : separator ≠ [])
    (missing : ∀ i < piece.length, ¬ StandsAt separator (piece.reverse ++ cs) i) :
    Cuts separator (piece.reverse ++ cs) (splitFrom separator piece cs) := by
  -- Every character that goes to the piece is one at which the separator does not stand.
  fun_induction splitFrom separator piece cs with
  | case1 piece =>
      rw [List.append_nil] at missing ⊢
      refine .last fun i => ?_
      rcases Nat.lt_or_ge i piece.length with inside | outside
      · exact missing i inside
      · exact not_standsAt_of_le nonempty (by rwa [List.length_reverse])
  | case2 piece c rest here ih =>
      obtain ⟨behind, cut⟩ := List.isPrefixOf_iff_prefix.1 here
      have dropped : rest.drop (separator.length - 1) = behind := by
        obtain ⟨head, tail, rfl⟩ := List.exists_cons_of_ne_nil nonempty
        cases cut
        simp
      rw [dropped] at ih ⊢
      rw [← cut] at missing ⊢
      exact .cut (by simpa using missing) (ih (by simp))
  | case3 piece c rest absent ih =>
      have moved : (c :: piece).reverse ++ rest = piece.reverse ++ c :: rest := by simp
      rw [moved] at ih
      refine ih fun i inside => ?_
      rcases Nat.lt_succ_iff_lt_or_eq.1 inside with before | rfl
      · exact missing i before
      · rw [← List.length_reverse, standsAt_length, ← List.isPrefixOf_iff_prefix]
        exact absent

theorem Cuts.ne_nil (cuts : Cuts separator cs pieces) : pieces ≠ [] := by
  cases cuts <;> exact List.cons_ne_nil _ _

theorem Cuts.intercalate_eq (cuts : Cuts separator cs pieces) : separator.intercalate pieces = cs := by
  induction cuts with
  | last => exact List.intercalate_singleton
  | @cut piece rest pieces first others ih =>
      obtain ⟨head, tail, rfl⟩ := List.exists_cons_of_ne_nil others.ne_nil
      rw [List.intercalate_cons_cons, ih, List.append_assoc]

theorem Cuts.not_infix (cuts : Cuts separator cs pieces) (nonempty : separator ≠ []) :
    ∀ piece ∈ pieces, ¬ separator <:+: piece := by
  induction cuts with
  | @last piece missing =>
      intro other member occurs
      rw [List.mem_singleton.1 member] at occurs
      obtain ⟨before, behind, rfl⟩ := occurs
      rw [List.append_assoc] at missing
      exact missing before.length (standsAt_length.2 (List.prefix_append _ _))
  | @cut piece rest pieces first others ih =>
      intro other member occurs
      rcases List.mem_cons.1 member with rfl | further
      · obtain ⟨before, behind, rfl⟩ := occurs
        have inside : before.length < (before ++ separator ++ behind).length := by
          have := List.length_pos_of_ne_nil nonempty
          simp only [List.length_append]
          omega
        refine first before.length inside ?_
        rw [List.append_assoc, List.append_assoc]
        exact standsAt_length.2 (by simp)
      · exact ih other further occurs

/-- Each piece but the last is followed by an occurrence. -/
theorem Cuts.found (cuts : Cuts separator cs pieces) (front : List Char) :
    ∃ positions, FoundFrom separator (front ++ cs) front.length positions ∧
      pieces.length = positions.length + 1 := by
  induction cuts generalizing front with
  | last missing =>
      refine ⟨[], .done fun i behind => ?_, rfl⟩
      obtain ⟨k, rfl⟩ := Nat.exists_eq_add_of_le behind
      exact fun here => missing k (standsAt_append.1 here)
  | @cut piece rest pieces first others ih =>
      obtain ⟨positions, found, counted⟩ := ih (front ++ piece ++ separator)
      have whole : front ++ piece ++ separator ++ rest = front ++ (piece ++ (separator ++ rest)) := by
        simp only [List.append_assoc]
      rw [whole, List.length_append, List.length_append] at found
      refine ⟨(front.length + piece.length) :: positions,
        .next (Nat.le_add_right _ _) ?_ (fun i behind before => ?_) found, ?_⟩
      · exact standsAt_append.2 (standsAt_length.2 (List.prefix_append _ _))
      · obtain ⟨k, rfl⟩ := Nat.exists_eq_add_of_le behind
        rw [standsAt_append]
        exact first k (Nat.lt_of_add_lt_add_left before)
      · rw [List.length_cons, List.length_cons, counted]

/-- `split` cuts a text at any separator that is not empty. -/
theorem cuts_split {s separator : String} (nonempty : separator ≠ "") :
    Cuts separator.toList s.toList ((split s separator).map String.toList) := by
  have letters : separator.toList ≠ [] := by rwa [Ne, String.toList_eq_nil_iff]
  have cuts : Cuts separator.toList ([].reverse ++ s.toList)
      (splitFrom separator.toList [] s.toList) := cuts_splitFrom letters (by simp)
  simpa [split, nonempty, Function.comp_def] using cuts

theorem intercalate_characters (cs : List Char) :
    "".intercalate (cs.map Char.toString) = String.ofList cs := by
  induction cs with
  | nil => rfl
  | cons c rest ih =>
      cases rest with
      | nil => simp
      | cons d rest =>
          rw [List.map_cons, List.map_cons, String.intercalate_cons_cons, ← List.map_cons, ih]
          apply String.toList_injective
          simp

theorem intercalate_split (s separator : String) :
    separator.intercalate (split s separator) = s := by
  by_cases empty : separator = ""
  · subst empty
    exact (intercalate_characters s.toList).trans String.ofList_toList
  · apply String.toList_injective
    rw [String.toList_intercalate, (cuts_split empty).intercalate_eq]

end Text

section

open World

variable {settings : Settings} {scope : Nat} {w u after : World} {first text second : Form}
  {s separator : String}

/-- What `split` comes to. -/
theorem evaluates_split (splits : u.Registers settings (.text .split))
    (inTurn : u.EvaluatesInTurn settings scope [text, second] [.text s, .text separator] after) :
    u.Evaluates settings .deferred ((Primitive.text .split).on [text, second]) scope
      (.ok (.vector ((Text.split s separator).map .text))) after :=
  (evaluates_answer (TextOp.computes .split) splits inTurn).1 _ rfl nofun

/-- `join` puts the separator between texts. -/
theorem join_answer (libraries : Libraries) (cells : Cells) (separator : String)
    (pieces : List String) :
    (Primitive.text .join).answer (TextOp.join.apply libraries cells)
      [.text separator, .vector (pieces.map .text)] = .ok (.text (separator.intercalate pieces)) := by
  have texts : (pieces.map Value.text).map (Value.display cells) = pieces := by
    rw [List.map_map]
    exact List.map_id pieces
  show Except.ok (Value.text (separator.intercalate
    ((pieces.map Value.text).map (Value.display cells)))) = _
  rw [texts]

theorem evaluates_join_split (joins : w.Registers settings (.text .join))
    (splits : u.Registers settings (.text .split))
    (evaluates : w.Evaluates settings .deferred first scope (.ok (.text separator)) u)
    (inTurn : u.EvaluatesInTurn settings scope [text, second] [.text s, .text separator] after) :
    w.Evaluates settings .deferred
      ((Primitive.text .join).on [first, (Primitive.text .split).on [text, second]]) scope
      (.ok (.text s)) after := by
  have pieces := evaluates_split splits inTurn
  refine (evaluates_answer (TextOp.computes .join) joins
    (.cons evaluates (.cons pieces (.nil after)))).1 _ ?_ nofun
  rw [join_answer, Text.intercalate_split]

/-- Splitting and joining. Split at any separator, the empty one as well, a text is joined again by
    it; no piece contains a separator that is not empty, and there is one piece more than there are
    occurrences of it found from the left. -/
theorem join_undoes_split (s separator : String) :
    (∀ {settings : Settings} {scope : Nat} {u after : World} {text second : Form},
      u.Registers settings (.text .split) →
      u.EvaluatesInTurn settings scope [text, second] [.text s, .text separator] after →
      u.Evaluates settings .deferred ((Primitive.text .split).on [text, second]) scope
        (.ok (.vector ((Text.split s separator).map .text))) after ∧
      ∀ {w : World} {first : Form}, w.Registers settings (.text .join) →
        w.Evaluates settings .deferred first scope (.ok (.text separator)) u →
        w.Evaluates settings .deferred
          ((Primitive.text .join).on [first, (Primitive.text .split).on [text, second]]) scope
          (.ok (.text s)) after) ∧
    (separator ≠ "" →
      (∀ piece ∈ Text.split s separator, ¬ separator.toList <:+: piece.toList) ∧
      ∃! positions, Text.FoundFrom separator.toList s.toList 0 positions ∧
        (Text.split s separator).length = positions.length + 1) := by
  refine ⟨fun splits inTurn => ⟨evaluates_split splits inTurn, fun joins evaluates =>
    evaluates_join_split joins splits evaluates inTurn⟩, fun nonempty => ?_⟩
  have cuts : Text.Cuts separator.toList s.toList _ := Text.cuts_split nonempty
  have letters : separator.toList ≠ [] := by rwa [Ne, String.toList_eq_nil_iff]
  refine ⟨fun piece member => cuts.not_infix letters _ (List.mem_map_of_mem member), ?_⟩
  obtain ⟨positions, found, counted⟩ := cuts.found []
  rw [List.length_map] at counted
  exact ⟨positions, ⟨found, counted⟩, fun others again => again.1.unique found⟩

/-- Occurrences that overlap: from the left there is one of `aa` in `aaa`. -/
theorem join_undoes_split_overlapping :
    let w : World := offering "string" [.text .join, .text .split]
    let split : Form := (Primitive.text .split).on (Evaluator.literals [.text "aaa", .text "aa"])
    w.Registers {} (.text .join) ∧ w.Registers {} (.text .split) ∧
      w.Evaluates {} .deferred split 0 (.ok (.vector [.text "", .text "a"])) w ∧
      w.Evaluates {} .deferred ((Primitive.text .join).on [.literal (.text "aa"), split]) 0
        (.ok (.text "aaa")) w ∧
      ("aa" ≠ "" ∧ ∃ positions, Text.FoundFrom "aa".toList "aaa".toList 0 positions ∧
        positions.length = 1) := by
  intro w split
  have joins : w.Registers {} (.text .join) := ⟨_, rfl, rfl⟩
  have splits : w.Registers {} (.text .split) := ⟨_, rfl, rfl⟩
  have inTurn : w.EvaluatesInTurn {} 0 (Evaluator.literals [.text "aaa", .text "aa"])
      [.text "aaa", .text "aa"] w :=
    evaluatesInTurn_literals (by simp [Value.isPlain_text])
  have pieces : Text.split "aaa" "aa" = ["", "a"] := by
    simp [Text.split, Text.splitFrom]
  obtain ⟨programs, occurrences⟩ := join_undoes_split "aaa" "aa"
  obtain ⟨cut, joined⟩ := programs splits inTurn
  have nonempty : "aa" ≠ "" := by decide
  obtain ⟨-, positions, ⟨found, counted⟩, -⟩ := occurrences nonempty
  rw [pieces] at cut counted
  exact ⟨joins, splits, cut, joined joins (evaluates_literal (Value.isPlain_text _)), nonempty,
    positions, found, (Nat.succ_inj.1 counted).symm⟩

end

end PluginLisp
