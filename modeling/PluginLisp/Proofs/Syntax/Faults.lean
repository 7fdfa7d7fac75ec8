import PluginLisp.Proofs.Syntax.Unfinished

/-!
Which fault the reader reports. Up to any token that is in order, the tokens have begun some constructs
and not ended them: brackets with whole forms inside, and marks that wait. The first token that does not
go with what is open is the one at which reading fails, and it is told by the token and by the innermost
open construct alone what is reported and where.

Main results: `Begins.run`, `readAll_eq_error_iff_firstFault`.
-/

namespace PluginLisp

open PluginLisp.Derivation

/-- A construct that has begun and not ended: an opening bracket with the number of forms inside it so
    far, or a mark that waits for its form. -/
inductive Begun where
  | bracket (kind : Bracket) (opener : Token) (count : Nat)
  | mark (token : Token)

/-- What tokens have begun and not ended, the innermost first. At the outside they are whole forms; each
    open bracket has whole forms inside; and a mark is open if nothing follows it, or what does has not
    ended. -/
inductive Begins : List Token → List Begun → Prop where
  | forms {tokens : List Token} {ds : List Derivation} (uses : tokens.map Token.kind = kindsAll ds) :
      Begins tokens []
  | bracket {before inside : List Token} {stack : List Begun} {kind : Bracket} {opener : Token}
      {ds : List Derivation} {count : Nat} (outer : Begins before stack)
      (opens : opener.kind = .opening kind) (uses : inside.map Token.kind = kindsAll ds)
      (length : ds.length = count) :
      Begins (before ++ opener :: inside) (.bracket kind opener count :: stack)
  | mark {before : List Token} {stack : List Begun} {token : Token} {m : Mark}
      (outer : Begins before stack) (marks : token.kind = .mark m) :
      Begins (before ++ [token]) (.mark token :: stack)

/-- A token that does not go with what is open before it; which token is reported, and why. A closing
    bracket is reported itself, unless the innermost open construct is a bracket of its kind; but the
    opening curly bracket is if it ends an odd number of forms. At the end of the input the innermost
    open construct is reported. -/
inductive OutOfPlace : List Begun → Token → (culprit : Token) → (reason : String) → Prop where
  | closer {stack : List Begun} {t : Token} {b : Bracket} (closes : t.kind = .closing b)
      (unmatched : ∀ opener count rest, stack ≠ .bracket b opener count :: rest) :
      OutOfPlace stack t t ("Unexpected " ++ t.kind.describe)
  | odd {stack : List Begun} {t opener : Token} {count : Nat} (closes : t.kind = .closing .curly)
      (odd : count % 2 = 1) :
      OutOfPlace (.bracket .curly opener count :: stack) t opener
        "Map literal must contain an even number of forms"
  | unclosed {stack : List Begun} {t opener : Token} {kind : Bracket} {count : Nat}
      (ends : t.kind = .finish) :
      OutOfPlace (.bracket kind opener count :: stack) t opener
        ("Unclosed " ++ opener.kind.describe ++ ", expected " ++ (TokenKind.closing kind).describe)
  | alone {stack : List Begun} {t token : Token} (ends : t.kind = .finish) :
      OutOfPlace (.mark token :: stack) t token ("Expected a form after " ++ token.kind.describe)

/-- The first fault in tokens: some token is out of place, and every token before it was in order. -/
def FirstFault (tokens : List Token) (culprit : Token) (reason : String) : Prop :=
  ∃ front t back stack, tokens = front ++ t :: back ∧ Begins front stack ∧
    OutOfPlace stack t culprit reason ∧
    ∀ early t' late, front = early ++ t' :: late → ∃ stack', Begins early stack' ∧
      ∀ culprit' reason', ¬ OutOfPlace stack' t' culprit' reason'

/-- What the reader keeps of a construct, without the forms. -/
def Pending.begun : Pending → Begun
  | .bracket kind opener items => .bracket kind opener items.length
  | .mark _ token => .mark token

/-! ### The reader knows what has begun -/

section

variable {front inside tokens rest : List Token} {stack stack' : List Pending} {t : Token}

theorem goesBySteps_openAfter? :
    GoesBySteps openAfter? fun rest step => step.open?.bind fun stack => openAfter? stack rest :=
  ⟨fun _ => rfl, fun _ _ => rfl⟩

theorem openAfter?_append (stack : List Pending) (front rest : List Token) :
    openAfter? stack (front ++ rest) =
      (openAfter? stack front).bind fun stack' => openAfter? stack' rest := by
  induction front generalizing stack with
  | nil => rfl
  | cons t front ih =>
      simp only [List.cons_append, openAfter?, Option.bind_assoc]
      exact congrArg _ (funext ih)

/-- One more form leaves open what encloses it. -/
theorem Begins.supply {f : Form} {d : Derivation} (begins : Begins front (stack.map Pending.begun))
    (uses : inside.map Token.kind = d.kinds) (opens : (supply f stack).open? = some stack') :
    Begins (front ++ inside) (stack'.map Pending.begun) := by
  induction stack generalizing f d front inside with
  | nil =>
      cases opens
      cases begins with
      | @forms _ ds uses' =>
          have longer : (front ++ inside).map Token.kind = kindsAll (ds ++ [d]) := by
            simp [uses, uses', kindsAll]
          exact .forms longer
  | cons p outer ih => cases p with
      | mark m token => cases begins with
          | @mark before _ _ m' begins marks =>
              -- the mark and the form after it are one form
              have wrapped : (token :: inside).map Token.kind = (marked m' d).kinds := by
                rw [kinds, List.map_cons, marks, uses]
              simpa using ih begins wrapped opens
      | bracket kind opener items =>
          cases opens
          cases begins with
          | @bracket before inner _ _ _ ds _ begins opener' uses' length =>
              have longer : (inner ++ inside).map Token.kind = kindsAll (ds ++ [d]) := by
                simp [uses, uses', kindsAll]
              rw [List.append_assoc, List.cons_append]
              exact .bracket begins opener' longer (by simp [length])

/-- Whether a bracket may be closed depends on its kind and the number of forms inside. -/
theorem closeBracket_ok_iff {b : Bracket} {opener : Token} {items : List Form} :
    (∃ f, closeBracket b opener items = .ok f) ↔ (b = .curly → items.length % 2 = 0) := by
  cases b with
  | round => simp [closeBracket]
  | square => simp [closeBracket]
  | curly => by_cases even : items.length % 2 = 0 <;> simp [closeBracket, even]

/-- The tokens between brackets that may be closed are those of one form. -/
theorem exists_closed {b : Bracket} {opener : Token} {items : List Form} {f : Form}
    {ds : List Derivation} (closes : closeBracket b opener items.reverse = .ok f)
    (length : ds.length = items.length) :
    ∃ d : Derivation, d.kinds = .opening b :: (kindsAll ds ++ [.closing b]) := by
  have even : b = .curly → (forms ds).length % 2 = 0 := by
    simpa [length] using closeBracket_ok_iff.1 ⟨f, closes⟩
  obtain ⟨f', closes'⟩ := (closeBracket_ok_iff.2 even : ∃ f', closeBracket b opener (forms ds) = .ok f')
  obtain ⟨d, -, closed⟩ := closeBracket_derived closes'
  exact ⟨d, closed⟩

/-- One more token that is not out of place. -/
theorem Begins.step (begins : Begins front (stack.map Pending.begun))
    (opens : (readStep stack t).open? = some stack') :
    Begins (front ++ [t]) (stack'.map Pending.begun) := by
  rcases readStep_cases opens with ⟨l, kind, supplied⟩ | ⟨b, kind, rfl⟩ | ⟨m, kind, rfl⟩ |
    ⟨b, opener, items, f, outer, kind, rfl, closes, supplied⟩
  · have uses : [t].map Token.kind = (leaf l).kinds := by simp [kind, kinds]
    exact begins.supply uses supplied
  · have uses : ([] : List Token).map Token.kind = kindsAll [] := by simp [kindsAll]
    exact .bracket begins kind uses rfl
  · exact .mark begins kind
  · cases begins with
    | @bracket before inner _ _ _ ds _ begins opens' uses length =>
        obtain ⟨d, closed⟩ := exists_closed closes length
        have whole : (opener :: (inner ++ [t])).map Token.kind = d.kinds := by
          simp [closed, opens', uses, kind]
        simpa using begins.supply whole supplied

/-- A run of the reader without a fault: what is open at its end is what the tokens have begun. -/
theorem Begins.run (begins : Begins front (stack.map Pending.begun))
    (opens : openAfter? stack rest = some stack') :
    Begins (front ++ rest) (stack'.map Pending.begun) := by
  induction rest generalizing front stack with
  | nil =>
      cases opens
      simpa using begins
  | cons t rest ih =>
      obtain ⟨next, step, opens⟩ := Option.bind_eq_some_iff.1 opens
      simpa using ih (begins.step step) opens

/-- Whole forms leave nothing open. -/
theorem openAfter?_forms : ∀ (ds : List Derivation) {tokens : List Token},
    tokens.map Token.kind = kindsAll ds → openAfter? [] tokens = some []
  | [], tokens, uses => by
      obtain rfl := List.map_eq_nil_iff.1 (uses.trans (by rw [kindsAll]))
      rfl
  | d :: ds, tokens, uses => by
      obtain ⟨first, others, rfl, one, more⟩ :=
        List.map_eq_append_iff.1 (uses.trans (by rw [kindsAll]))
      rw [goesBySteps_openAfter?.derivation d one]
      exact openAfter?_forms ds more

/-- The reader goes without a fault over all that is in order, and knows what has begun. -/
theorem Begins.openAfter? {begun : List Begun} (begins : Begins tokens begun) :
    ∃ stack, PluginLisp.openAfter? [] tokens = some stack ∧ stack.map Pending.begun = begun := by
  induction begins with
  | forms uses => exact ⟨[], openAfter?_forms _ uses, rfl⟩
  | @bracket before inside _ kind opener ds count outer opens uses length ih =>
      obtain ⟨stack, passed, rfl⟩ := ih
      have step : readStep stack opener = .pending (.bracket kind opener [] :: stack) := by
        simp [readStep, opens]
      have between := goesBySteps_openAfter?.items ds uses kind opener [] stack []
      rw [List.append_nil] at between
      refine ⟨.bracket kind opener ((Derivation.forms ds).reverse ++ []) :: stack, ?_, ?_⟩
      · rw [openAfter?_append, passed, Option.bind_some, PluginLisp.openAfter?, step]
        exact between
      · simp [Pending.begun, length]
  | @mark before _ token m outer marks ih =>
      obtain ⟨stack, passed, rfl⟩ := ih
      have step : readStep stack token = .pending (.mark m token :: stack) := by
        simp [readStep, marks]
      refine ⟨.mark m token :: stack, ?_, rfl⟩
      rw [openAfter?_append, passed, Option.bind_some, PluginLisp.openAfter?, step]
      rfl

/-! ### What the reader finds out of place -/

theorem supply_ne_fail (f : Form) (stack : List Pending) (e : Error) : supply f stack ≠ .fail e := by
  induction stack generalizing f with
  | nil => simp [supply]
  | cons p outer ih => cases p with
      | mark m token => exact ih _
      | bracket kind opener items => simp [supply]

/-- What is kept of an open bracket is kept of a bracket on the stack. -/
theorem exists_bracket {kind : Bracket} {opener : Token} {count : Nat} {outer : List Begun}
    (begun : stack.map Pending.begun = .bracket kind opener count :: outer) :
    ∃ items rest, stack = .bracket kind opener items :: rest ∧ items.length = count := by
  obtain ⟨p, rest, rfl, top, -⟩ := List.map_eq_cons_iff.1 begun
  cases p with
  | mark m token => cases top
  | bracket kind opener items =>
      cases top
      exact ⟨items, rest, rfl, rfl⟩

theorem exists_mark {token : Token} {outer : List Begun}
    (begun : stack.map Pending.begun = .mark token :: outer) :
    ∃ m rest, stack = .mark m token :: rest := by
  obtain ⟨p, rest, rfl, top, -⟩ := List.map_eq_cons_iff.1 begun
  cases p with
  | bracket kind opener items => cases top
  | mark m token =>
      cases top
      exact ⟨m, rest, rfl⟩

/-- The reader fails at a token that is out of place. -/
theorem OutOfPlace.readStep {culprit : Token} {reason : String}
    (outOfPlace : OutOfPlace (stack.map Pending.begun) t culprit reason) :
    PluginLisp.readStep stack t = .fail (culprit.fault reason) ∧ (t.kind = .finish → stack ≠ []) := by
  generalize begun : stack.map Pending.begun = outer at outOfPlace
  cases outOfPlace with
  | @closer _ _ b closes unmatched =>
      refine ⟨?_, by simp [closes]⟩
      match stack with
      | [] => simp [PluginLisp.readStep, closes]
      | .mark m token :: rest => simp [PluginLisp.readStep, closes]
      | .bracket kind opener items :: rest =>
          have other : b ≠ kind := by
            rintro rfl
            exact unmatched _ _ _ begun.symm
          simp [PluginLisp.readStep, closes, other]
  | odd closes odd =>
      obtain ⟨items, rest, rfl, rfl⟩ := exists_bracket begun
      simp [PluginLisp.readStep, closes, closeBracket, odd]
  | unclosed ends =>
      obtain ⟨items, rest, rfl, -⟩ := exists_bracket begun
      simp [PluginLisp.readStep, ends, unfinished]
  | alone ends =>
      obtain ⟨m, rest, rfl⟩ := exists_mark begun
      simp [PluginLisp.readStep, ends, unfinished]

/-- A bracket that closes what it must not close is out of place. -/
theorem outOfPlace_of_closing {b : Bracket} {e : Error} (kind : t.kind = .closing b)
    (fails : readStep stack t = .fail e) : ∃ culprit reason,
      OutOfPlace (stack.map Pending.begun) t culprit reason ∧ e = culprit.fault reason := by
  simp only [readStep, kind] at fails
  split at fails
  · next b' opener items outer =>
    split at fails
    · rename_i same
      subst same
      cases b with
      | round => exact absurd fails (supply_ne_fail _ _ _)
      | square => exact absurd fails (supply_ne_fail _ _ _)
      | curly =>
          by_cases even : items.length % 2 = 0
          · simp only [closeBracket, List.length_reverse, even, if_true] at fails
            exact absurd fails (supply_ne_fail _ _ _)
          · simp only [closeBracket, List.length_reverse, even, if_false, ReadStep.fail.injEq] at fails
            exact ⟨opener, _, .odd kind (by simpa using even), fails.symm⟩
    · rename_i other
      cases fails
      exact ⟨t, _, .closer kind (by simp [Pending.begun, Ne.symm other]), by rw [kind]⟩
  · rename_i noBracket
    cases fails
    refine ⟨t, _, .closer kind fun opener count rest begun => ?_, by rw [kind]⟩
    obtain ⟨items, outer, rfl, -⟩ := exists_bracket begun
    exact noBracket _ _ _ _ rfl

/-- A step of the reader fails where a token is out of place, and nowhere else. -/
theorem readStep_fail_iff {e : Error} :
    (readStep stack t = .fail e ∧ (t.kind = .finish → stack ≠ [])) ↔
      ∃ culprit reason, OutOfPlace (stack.map Pending.begun) t culprit reason ∧
        e = culprit.fault reason := by
  constructor
  · rintro ⟨fails, unclosed⟩
    rcases t.kind.leaf_or_other with ⟨l, kind⟩ | ⟨b, kind⟩ | ⟨b, kind⟩ | ⟨m, kind⟩ | kind
    · exact absurd ((readStep_leaf kind).symm.trans fails) (supply_ne_fail _ _ _)
    · simp [readStep, kind] at fails
    · exact outOfPlace_of_closing kind fails
    · simp [readStep, kind] at fails
    · simp only [readStep, kind, ReadStep.fail.injEq] at fails
      subst fails
      match stack with
      | [] => exact absurd rfl (unclosed kind)
      | .bracket b opener items :: outer => exact ⟨opener, _, .unclosed kind, rfl⟩
      | .mark m token :: outer => exact ⟨token, _, .alone kind, rfl⟩
  · rintro ⟨culprit, reason, outOfPlace, rfl⟩
    exact outOfPlace.readStep

/-! ### How reading fails -/

/-- Reading fails where a step fails. -/
theorem readForms_of_fail {e : Error} (fails : readStep stack t = .fail e)
    (unclosed : t.kind = .finish → stack ≠ []) (done : List Form) (rest : List Token) :
    readForms done stack (t :: rest) = .error e := by
  rw [readForms]
  · rw [fails]
  · exact fun finish empty => unclosed finish empty

/-- Where reading does not get over some tokens, there is a first one at which a step fails. -/
theorem exists_fail (stuck : openAfter? stack tokens = none) :
    ∃ front t back stack' e, tokens = front ++ t :: back ∧ openAfter? stack front = some stack' ∧
      readStep stack' t = .fail e := by
  induction tokens generalizing stack with
  | nil => cases stuck
  | cons t rest ih =>
      cases step : (readStep stack t).open? with
      | some next =>
          rw [openAfter?, step, Option.bind_some] at stuck
          obtain ⟨front, t', back, stack', e, rfl, passed, fails⟩ := ih stuck
          exact ⟨t :: front, t', back, stack', e, rfl, by rw [openAfter?, step]; exact passed, fails⟩
      | none => cases stepped : readStep stack t with
          | form f => simp [stepped, ReadStep.open?] at step
          | pending next => simp [stepped, ReadStep.open?] at step
          | fail e => exact ⟨[], t, rest, stack, e, rfl, rfl, stepped⟩

/-- A step that fails after a run without a fault is the first fault. -/
theorem firstFault_of_fail {e : Error} (passed : openAfter? [] front = some stack)
    (fails : readStep stack t = .fail e) (unclosed : t.kind = .finish → stack ≠ []) (back : List Token) :
    ∃ culprit reason, FirstFault (front ++ t :: back) culprit reason ∧ e = culprit.fault reason := by
  have nothing : ([] : List Token).map Token.kind = kindsAll [] := by simp [kindsAll]
  have start : Begins [] (List.map Pending.begun []) := .forms nothing
  obtain ⟨culprit, reason, outOfPlace, same⟩ := readStep_fail_iff.1 ⟨fails, unclosed⟩
  refine ⟨culprit, reason, ⟨front, t, back, _, rfl, start.run passed, outOfPlace, ?_⟩, same⟩
  intro early t' late split
  rw [split, openAfter?_append] at passed
  obtain ⟨stack', passedEarly, later⟩ := Option.bind_eq_some_iff.1 passed
  obtain ⟨next, step, -⟩ := Option.bind_eq_some_iff.1 later
  refine ⟨_, start.run passedEarly, fun culprit' reason' outOfPlace' => ?_⟩
  rw [outOfPlace'.readStep.1] at step
  cases step

end

/-- Reading fails exactly if some token is out of place, and with the first such fault: a syntax fault
    at the place of the token that is to blame. -/
theorem readAll_eq_error_iff_firstFault {tokens : List Token} {last : Token}
    (ends : last.kind = .finish) (inner : ∀ t ∈ tokens, t.kind ≠ .finish) (e : Error) :
    readAll (tokens ++ [last]) = .error e ↔ ∃ culprit reason,
      FirstFault (tokens ++ [last]) culprit reason ∧
        e = .syntaxFault culprit.place.line culprit.place.column reason := by
  constructor
  · intro fails
    cases passed : openAfter? [] tokens with
    | some stack =>
        obtain ⟨done, reads⟩ := exists_readForms passed [] [last]
        cases stack with
        | nil =>
            rw [readAll, reads] at fails
            simp [readForms, ends] at fails
        | cons p outer =>
            rw [readAll, readForms_of_openAfter? ends passed (by simp)] at fails
            cases fails
            have step : readStep (p :: outer) last = .fail (unfinished (p :: outer)) := by
              simp [readStep, ends]
            exact firstFault_of_fail passed step (by simp) []
    | none =>
        obtain ⟨front, t, back, stack, e', rfl, passedFront, step⟩ := exists_fail passed
        have notLast : t.kind ≠ .finish := inner t (by simp)
        have unclosed : t.kind = .finish → stack ≠ [] := fun finish => absurd finish notLast
        obtain ⟨done, reads⟩ := exists_readForms passedFront [] (t :: (back ++ [last]))
        have whole : front ++ t :: back ++ [last] = front ++ t :: (back ++ [last]) := by simp
        rw [readAll, whole, reads, readForms_of_fail step unclosed] at fails
        cases fails
        rw [whole]
        exact firstFault_of_fail passedFront step unclosed (back ++ [last])
  · rintro ⟨culprit, reason, ⟨front, t, back, begun, split, begins, outOfPlace, -⟩, rfl⟩
    obtain ⟨stack, passed, rfl⟩ := begins.openAfter?
    obtain ⟨done, reads⟩ := exists_readForms passed [] (t :: back)
    obtain ⟨fails, unclosed⟩ := outOfPlace.readStep
    rw [readAll, split, reads]
    exact readForms_of_fail fails unclosed done back

/-- The tokens of a list with a map literal of one form, closed by a bracket of another kind. -/
def oddTokens : List Token :=
  [⟨.opening .round, "(", ⟨1, 1⟩⟩, ⟨.opening .curly, "\x7b", ⟨1, 2⟩⟩, ⟨.keyword "a", ":a", ⟨1, 3⟩⟩,
    ⟨.closing .curly, "\x7d", ⟨1, 5⟩⟩, ⟨.closing .square, "]", ⟨1, 7⟩⟩]

/-- The map literal is the first fault, and the bracket after it is not reported. -/
theorem firstFault_oddTokens :
    scan "(\x7b:a\x7d ]" = .ok (oddTokens ++ [⟨.finish, "", ⟨1, 8⟩⟩]) ∧
      ∃ culprit reason, FirstFault (oddTokens ++ [⟨.finish, "", ⟨1, 8⟩⟩]) culprit reason ∧
        culprit.place = ⟨1, 2⟩ ∧ reason = "Map literal must contain an even number of forms" := by
  refine ⟨by cbv, ?_⟩
  have inner : ∀ t ∈ oddTokens, t.kind ≠ .finish := by simp [oddTokens]
  have fails : readAll (oddTokens ++ [⟨.finish, "", ⟨1, 8⟩⟩]) =
      .error (.syntaxFault 1 2 "Map literal must contain an even number of forms") := rfl
  obtain ⟨culprit, reason, fault, same⟩ := (readAll_eq_error_iff_firstFault rfl inner _).1 fails
  obtain ⟨line, column, said⟩ := Error.syntaxFault.inj same
  exact ⟨culprit, reason, fault, by rw [line, column], said.symm⟩

end PluginLisp
