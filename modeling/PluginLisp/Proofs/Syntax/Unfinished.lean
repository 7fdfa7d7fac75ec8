import PluginLisp.CommandLine
import PluginLisp.Proofs.Syntax.Scanning
import PluginLisp.Proofs.Syntax.Grammar

/-!
Texts that are not finished. The reader knows which constructs are open, while the dialogue only counts
by how much the opening brackets outnumber the closing ones. As long as no token is out of place, the
two agree: the count is the number of brackets on the reader's stack. So a text that can be read is
never taken for an unfinished one, and one that ends inside a bracket always is.

Main results: `LeavesOpen.parse`, `isIncomplete_agrees_with_parse`.
-/

namespace PluginLisp

/-- Whether the construct is a bracket, and no mark. -/
def Pending.isBracket : Pending → Bool
  | .bracket .. => true
  | .mark .. => false

/-- The number of brackets among open constructs. -/
def openBrackets (stack : List Pending) : Nat := stack.countP Pending.isBracket

@[simp] theorem openBrackets_bracket (b : Bracket) (opener : Token) (items : List Form)
    (stack : List Pending) :
    openBrackets (.bracket b opener items :: stack) = openBrackets stack + 1 :=
  List.countP_cons_of_pos rfl

@[simp] theorem openBrackets_mark (m : Mark) (token : Token) (stack : List Pending) :
    openBrackets (.mark m token :: stack) = openBrackets stack :=
  List.countP_cons_of_neg (by simp [Pending.isBracket])

/-- The constructs that are open after a step: none if it completes a form of the top level. -/
def ReadStep.open? : ReadStep → Option (List Pending)
  | .form _ => some []
  | .pending stack => some stack
  | .fail _ => none

/-- The constructs that are open after some more tokens, where those in `stack` were open before, if
    none of the tokens is out of place. -/
def openAfter? (stack : List Pending) : List Token → Option (List Pending)
  | [] => some stack
  | t :: rest => (readStep stack t).open?.bind fun next => openAfter? next rest

/-- No token of the text is out of place, and the constructs of `stack` have begun in it and not ended
    where it ends. -/
def LeavesOpen (source : String) (stack : List Pending) : Prop :=
  ∃ tokens last, scan source = .ok (tokens ++ [last]) ∧ last.kind = .finish ∧
    openAfter? [] tokens = some stack

variable {stack stack' : List Pending} {tokens : List Token} {t last : Token} {source : String}

/-! ### The count of brackets -/

/-- The count after one more token. -/
def TokenKind.depthAfter (depth : Int) : TokenKind → Int
  | .opening _ => depth + 1
  | .closing _ => depth - 1
  | _ => depth

theorem bracketDepth_eq_foldl (tokens : List Token) :
    bracketDepth tokens = tokens.foldl (fun depth t => t.kind.depthAfter depth) 0 := rfl

/-- What a token can do that is not out of place: it is a form, it opens a construct, or it closes the
    innermost bracket. -/
theorem readStep_cases (opens : (readStep stack t).open? = some stack') :
    (∃ l : Leaf, t.kind = l.kind ∧ (supply l.form stack).open? = some stack') ∨
      (∃ b, t.kind = .opening b ∧ stack' = .bracket b t [] :: stack) ∨
      (∃ m, t.kind = .mark m ∧ stack' = .mark m t :: stack) ∨
      ∃ b opener items f outer, t.kind = .closing b ∧ stack = .bracket b opener items :: outer ∧
        closeBracket b opener items.reverse = .ok f ∧ (supply f outer).open? = some stack' := by
  rcases t.kind.leaf_or_other with ⟨l, kind⟩ | ⟨b, kind⟩ | ⟨b, kind⟩ | ⟨m, kind⟩ | kind
  · rw [readStep_leaf kind] at opens
    exact Or.inl ⟨l, kind, opens⟩
  · simp only [readStep, kind, ReadStep.open?, Option.some.injEq] at opens
    exact Or.inr (Or.inl ⟨b, kind, opens.symm⟩)
  · refine Or.inr (Or.inr (Or.inr ?_))
    cases stack with
    | nil => simp [readStep, kind, ReadStep.open?] at opens
    | cons p outer => cases p with
        | mark m token => simp [readStep, kind, ReadStep.open?] at opens
        | bracket b' opener items =>
            simp only [readStep, kind] at opens
            split at opens
            · rename_i same
              subst same
              cases closes : closeBracket b opener items.reverse with
              | error e => simp [closes, ReadStep.open?] at opens
              | ok f =>
                  rw [closes] at opens
                  exact ⟨b, opener, items, f, outer, kind, rfl, closes, opens⟩
            · simp [ReadStep.open?] at opens
  · simp only [readStep, kind, ReadStep.open?, Option.some.injEq] at opens
    exact Or.inr (Or.inr (Or.inl ⟨m, kind, opens.symm⟩))
  · simp [readStep, kind, ReadStep.open?] at opens

/-- A form that is handed on completes marks only. -/
theorem openBrackets_supply (f : Form) (opens : (supply f stack).open? = some stack') :
    openBrackets stack' = openBrackets stack := by
  induction stack generalizing f with
  | nil =>
      cases opens
      rfl
  | cons p rest ih => cases p with
      | mark m token =>
          rw [openBrackets_mark]
          exact ih _ opens
      | bracket kind opener items =>
          cases opens
          simp

/-- One token changes the number of open brackets as it changes the count. -/
theorem openBrackets_readStep (opens : (readStep stack t).open? = some stack') :
    (openBrackets stack' : Int) = t.kind.depthAfter (openBrackets stack) := by
  rcases readStep_cases opens with ⟨l, kind, supplied⟩ | ⟨b, kind, rfl⟩ | ⟨m, kind, rfl⟩ |
    ⟨b, opener, items, f, outer, kind, rfl, -, supplied⟩
  · rw [openBrackets_supply l.form supplied, kind]
    cases l <;> rfl
  · simp [kind, TokenKind.depthAfter]
  · simp [kind, TokenKind.depthAfter]
  · simp [openBrackets_supply f supplied, kind, TokenKind.depthAfter]

/-- A run of the reader over tokens changes the number of open brackets as they change the count. -/
theorem openBrackets_openAfter? (opens : openAfter? stack tokens = some stack') :
    (openBrackets stack' : Int) =
      tokens.foldl (fun depth t => t.kind.depthAfter depth) (openBrackets stack : Int) := by
  induction tokens generalizing stack with
  | nil =>
      cases opens
      rfl
  | cons t rest ih =>
      obtain ⟨next, step, opens⟩ := Option.bind_eq_some_iff.1 opens
      rw [List.foldl_cons, ← openBrackets_readStep step]
      exact ih opens

/-- The count over a whole text is the number of brackets that are open at its end. -/
theorem bracketDepth_of_openAfter? (ends : last.kind = .finish)
    (opens : openAfter? [] tokens = some stack) :
    bracketDepth (tokens ++ [last]) = openBrackets stack := by
  rw [openBrackets_openAfter? opens, bracketDepth_eq_foldl, List.foldl_append, List.foldl_cons,
    List.foldl_nil, ends]
  rfl

theorem LeavesOpen.isIncomplete_iff (leaves : LeavesOpen source stack) :
    isIncomplete source = true ↔ ∃ p ∈ stack, p.isBracket = true := by
  obtain ⟨tokens, last, scanned, ends, opens⟩ := leaves
  rw [isIncomplete, scanned]
  simp only [bracketDepth_of_openAfter? ends opens, decide_eq_true_eq, Int.natCast_pos]
  exact List.countP_pos_iff

/-! ### How reading ends -/

theorem inner_of_open (opens : (readStep stack t).open? = some stack') : t.kind ≠ .finish := by
  intro finish
  simp only [readStep, finish, ReadStep.open?] at opens
  cases opens

/-- Over tokens that are in order the reader collects forms and goes on with what is open. -/
theorem exists_readForms (opens : openAfter? stack tokens = some stack') (done : List Form)
    (rest : List Token) :
    ∃ done', readForms done stack (tokens ++ rest) = readForms done' stack' rest := by
  induction tokens generalizing stack done with
  | nil =>
      cases opens
      exact ⟨done, rfl⟩
  | cons t front ih =>
      obtain ⟨next, step, opens⟩ := Option.bind_eq_some_iff.1 opens
      rw [List.cons_append, readForms_cons (inner_of_open step)]
      cases stepped : readStep stack t with
      | form f =>
          rw [stepped] at step
          cases step
          exact ih opens (f :: done)
      | pending stack'' =>
          rw [stepped] at step
          cases step
          exact ih opens done
      | fail e =>
          rw [stepped] at step
          cases step

/-- Where constructs are open at the end of the input, the reader says which one. -/
theorem readForms_of_openAfter? (ends : last.kind = .finish)
    (opens : openAfter? stack tokens = some stack') (unclosed : stack' ≠ []) (done : List Form) :
    readForms done stack (tokens ++ [last]) = .error (unfinished stack') := by
  obtain ⟨done', reads⟩ := exists_readForms opens done [last]
  cases stack' with
  | nil => exact absurd rfl unclosed
  | cons p rest =>
      rw [reads]
      simp [readForms, readStep, ends]

/-- Where the reader answers with forms, nothing is open at the end of the input. -/
theorem openAfter?_of_readForms {done forms : List Form} (ends : last.kind = .finish)
    (inner : ∀ t ∈ tokens, t.kind ≠ .finish)
    (reads : readForms done stack (tokens ++ [last]) = .ok forms) :
    openAfter? stack tokens = some [] := by
  induction tokens generalizing stack done with
  | nil =>
      cases stack with
      | nil => rfl
      | cons p rest => simp [readForms, readStep, ends] at reads
  | cons t rest ih =>
      have innerRest := fun t' member => inner t' (List.mem_cons_of_mem t member)
      rw [List.cons_append, readForms_cons (inner t List.mem_cons_self)] at reads
      rw [openAfter?]
      cases stepped : readStep stack t with
      | form f =>
          rw [stepped] at reads
          exact ih innerRest reads
      | pending stack' =>
          rw [stepped] at reads
          exact ih innerRest reads
      | fail e =>
          rw [stepped] at reads
          cases reads

theorem LeavesOpen.parse (leaves : LeavesOpen source stack) (unclosed : stack ≠ []) :
    parse source = .error (unfinished stack) := by
  obtain ⟨tokens, last, scanned, ends, opens⟩ := leaves
  rw [PluginLisp.parse, scanned]
  exact readForms_of_openAfter? ends opens unclosed []

theorem leavesOpen_of_parse {forms : List Form} (parsed : parse source = .ok forms) :
    LeavesOpen source [] := by
  cases scanned : scan source with
  | error e =>
      rw [PluginLisp.parse, scanned] at parsed
      cases parsed
  | ok tokens =>
      obtain ⟨inner, last, rfl, ends, lexical⟩ := scanFrom_spec scanned
      have proper : ∀ t ∈ inner, t.kind ≠ .finish := fun t member => (lexical t member).ne_finish
      rw [PluginLisp.parse, scanned] at parsed
      exact ⟨inner, last, scanned, ends, openAfter?_of_readForms ends proper parsed⟩

/-- A text that can be read is not taken for an unfinished one. -/
theorem not_isIncomplete_of_parse {forms : List Form} (parsed : parse source = .ok forms) :
    isIncomplete source = false := by
  rw [Bool.eq_false_iff, ne_eq, (leavesOpen_of_parse parsed).isIncomplete_iff]
  simp

/-! ### The dialogue -/

namespace CommandLine.Dialogue

/-- A line that completes forms is answered at once. -/
theorem takeLine_of_parse {d : Dialogue} {line : String} {forms : List Form}
    (parsed : PluginLisp.parse (d.pending ++ line ++ "\n") = .ok forms) :
    d.takeLine line = answer { d with pending := d.pending ++ line ++ "\n" } := by
  rw [takeLine, not_isIncomplete_of_parse parsed, if_neg (by simp)]

/-- A line that ends inside a bracket is kept, and nothing is evaluated. -/
theorem takeLine_of_leavesOpen {d : Dialogue} {line : String}
    (leaves : LeavesOpen (d.pending ++ line ++ "\n") stack) (bracket : ∃ p ∈ stack, p.isBracket = true) :
    d.takeLine line = { d with pending := d.pending ++ line ++ "\n" } := by
  rw [takeLine, leaves.isIncomplete_iff.2 bracket, if_pos rfl]

end CommandLine.Dialogue

/-- The test for unfinished texts agrees with the reader. A text that can be read does not count as
    unfinished; and where reading gets to the end of the input with constructs open, it fails because of
    these, and the text counts as unfinished exactly if one of them is a bracket. -/
theorem isIncomplete_agrees_with_parse (source : String) :
    (∀ forms, parse source = .ok forms → isIncomplete source = false) ∧
      ∀ stack, LeavesOpen source stack →
        (stack ≠ [] → parse source = .error (unfinished stack)) ∧
          (isIncomplete source = true ↔ ∃ p ∈ stack, p.isBracket = true) :=
  ⟨fun _ => not_isIncomplete_of_parse, fun _ leaves => ⟨leaves.parse, leaves.isIncomplete_iff⟩⟩

/-- A mark that waits for its form inside a bracket, after a bracket that is closed. -/
theorem isIncomplete_mark_in_bracket :
    isIncomplete "[] (a)" = false ∧
      parse "[] (a '" = .error (.syntaxFault 1 7 "Expected a form after `'`") ∧
      isIncomplete "[] (a '" = true := by
  obtain ⟨complete, -⟩ := isIncomplete_agrees_with_parse "[] (a)"
  obtain ⟨-, unfinished⟩ := isIncomplete_agrees_with_parse "[] (a '"
  let mark : Token := ⟨.mark .quote, "'", ⟨1, 7⟩⟩
  let opener : Token := ⟨.opening .round, "(", ⟨1, 4⟩⟩
  have leaves : LeavesOpen "[] (a '" [.mark .quote mark, .bracket .round opener [.symbol "a"]] :=
    ⟨[⟨.opening .square, "[", ⟨1, 1⟩⟩, ⟨.closing .square, "]", ⟨1, 2⟩⟩, opener,
      ⟨.symbol "a", "a", ⟨1, 5⟩⟩, mark], ⟨.finish, "", ⟨1, 8⟩⟩, by cbv, rfl, rfl⟩
  have read : parse "[] (a)" = .ok [.vector [], .list [.symbol "a"]] := by cbv
  obtain ⟨fails, incomplete⟩ := unfinished _ leaves
  exact ⟨complete _ read, fails (by simp),
    incomplete.2 ⟨_, List.mem_cons_of_mem _ List.mem_cons_self, rfl⟩⟩

end PluginLisp
