import Mathlib.Data.List.Induction
import PluginLisp.Proofs.Evaluation.TailContexts

/-!
Calls in tail position. However deep a call of a closure lies in forms that leave it to it to say what
they come to, it is not made there: it is left as the result of the outermost one, with nothing of the
body of the closure evaluated. So the loop that makes such calls one after the other never nests one in
another, and how deep evaluations are nested does not depend on how many calls there are.

Main result: `calls_in_tail_position`.
-/

namespace PluginLisp

open Machine World Evaluator

namespace Evaluator

/-! ### Calls of closures -/

/-- A partial call of a partial call and so on, the innermost arguments first. -/
def partials (f : Value) (bounds : List (List Value)) : Value := bounds.foldl .partialCall f

/-- A callable, called with forms, comes to a call of a closure with arguments: it is the closure, with
    any number of partial calls around it, or a composition with that as its outermost function. -/
inductive CallsClosure (ev : Evaluator) (c : Closure) (w : World) (scope : Nat) :
    Value → List Form → (args : List Value) → World → Prop where
  | direct {bounds : List (List Value)} {forms : List Form} {vs : List Value} {u : World}
      (plain : ∀ v ∈ bounds.flatten, v.IsPlain)
      (evaluated : w.Ends (ev.evalAll forms scope) (.ok vs) u) :
      CallsClosure ev c w scope (partials (.function c) bounds) forms (bounds.flatten ++ vs) u
  | composed {bounds : List (List Value)} {g : Value} {rest : List Value} {forms : List Form}
      {v : Value} {u : World} (plain : ∀ v ∈ bounds.flatten, v.IsPlain)
      (inner : w.Ends (ev.callChain (g :: rest) forms scope) (.ok v) u) :
      CallsClosure ev c w scope (.comp (partials (.function c) bounds :: g :: rest)) forms
        (bounds.flatten ++ [v]) u

/-- At the site is a call of a closure with arguments, written or made by `apply`. Evaluating what is
    called and the arguments leaves the world `after`. -/
inductive IsCall (ev : Evaluator) (c : Closure) (args : List Value) :
    Site → (after : World) → Prop where
  | written {w u after : World} {scope : Nat} {head : Form} {forms : List Form} {f : Value}
      (ordinary : w.Ordinary ev.settings head) (callee : w.Ends (ev.eval head scope) (.ok f) u)
      (calls : ev.CallsClosure c u scope f forms args after) :
      IsCall ev c args ⟨w, .list (head :: forms), scope⟩ after
  | applied {w u₁ u₂ after : World} {scope : Nat} {g form : Form} {forms : List Form} {f : Value}
      {values more : List Value} (loaded : w.Loaded ev.settings)
      (callee : w.Ends (ev.eval g scope) (.ok f) u₁)
      (evaluated : u₁.Ends (ev.evalAll (form :: forms) scope) (.ok values) u₂)
      (last : (values.getLast?.getD .nil).asSeq = .ok more)
      (calls : ev.CallsClosure c u₂ scope f (literals (values.dropLast ++ more)) args after) :
      IsCall ev c args ⟨w, .list (.symbol "apply" :: g :: form :: forms), scope⟩ after

section

variable {ev ev' : Evaluator} {c : Closure} {scope : Nat} {bounds : List (List Value)}

/-- Partial calls of a closure hand all their arguments on to it. The induction is on the partial calls,
    from the outermost one on. -/
theorem callTail_partials (reads : ev.ReadsLiterals) (positive : 0 < ev.steps)
    (plain : ∀ v ∈ bounds.flatten, v.IsPlain) (forms : List Form) :
    ev.callTail (partials (.function c) bounds) forms scope =
      ev.evalAll forms scope >>= fun vs => ev.callClosure c (bounds.flatten ++ vs) := by
  induction bounds using List.reverseRecOn generalizing forms with
  | nil =>
      rw [partials, List.foldl_nil, callTail]
      rfl
  | append_singleton bounds bound ih =>
      have plain_inner : ∀ v ∈ bounds.flatten, v.IsPlain :=
        fun v member => plain v (by simp [member])
      have forced : ∀ v ∈ bound, ev.IsForced v := fun v member =>
        isForced_of_plain positive (plain v (by simp [member]))
      rw [partials, List.foldl_append, List.foldl_cons, List.foldl_nil, callTail]
      refine (ev.evalAll_gives forms scope).bind_congr fun vs made => ?_
      have again : ev.evalAll (literals (bound ++ vs)) scope = pure (bound ++ vs) :=
        reads.evalAll (List.forall_mem_append.2 ⟨forced, made⟩)
      rw [literals, literals, ← List.map_append, ← literals, ← partials, ih plain_inner, again]
      simp

theorem callChain_gives (ev : Evaluator) (g : Value) (rest : List Value) (forms : List Form) :
    (ev.callChain (g :: rest) forms scope).Gives ev.IsForced := by
  cases rest with
  | nil =>
      rw [callChain]
      exact (Gives.any _).bind fun v _ => ev.force_gives v
  | cons h rest =>
      rw [callChain]
      · exact (Gives.any _).bind fun _ _ => (Gives.any _).bind fun v _ => ev.force_gives v
      · simp

/-- A composition with partial calls of a closure outermost hands it what the rest comes to. -/
theorem callTail_composed (reads : ev.ReadsLiterals) (positive : 0 < ev.steps)
    (plain : ∀ v ∈ bounds.flatten, v.IsPlain) (g : Value) (rest : List Value)
    (forms : List Form) :
    ev.callTail (.comp (partials (.function c) bounds :: g :: rest)) forms scope =
      ev.callChain (g :: rest) forms scope >>= fun v => ev.callClosure c (bounds.flatten ++ [v]) := by
  rw [callTail]
  · refine (ev.callChain_gives g rest forms).bind_congr fun v made => ?_
    have again : ev.evalAll (literals [v]) scope = pure [v] := reads.evalAll (by simpa using made)
    rw [callTail_partials reads positive plain]
    exact congrArg (· >>= _) again
  · simp

theorem CallsClosure.ends {w after : World} {f : Value} {forms : List Form} {args : List Value}
    (calls : ev.CallsClosure c w scope f forms args after) (below : Below ev ev')
    (deferred : ev'.calls = .deferred) (reads : ev'.ReadsLiterals) (positive : 0 < ev'.steps)
    (accepts : c.accepts args.length = true) :
    w.Ends (ev'.callTail f forms scope) (.ok (.pending c args)) after := by
  have left (w : World) : w.Ends (ev'.callClosure c args) (.ok (.pending c args)) w := by
    rw [callClosure, if_pos accepts, deferred]
    exact ends_pure w _
  cases calls with
  | direct plain evaluated =>
      rw [callTail_partials reads positive plain]
      exact (below.evalAll evaluated).bind (left _)
  | composed plain inner =>
      rw [callTail_composed reads positive plain]
      exact (below.callChain inner).bind (left _)

end

section

variable {settings : Settings} {tower : Nat → Evaluator} {ev : Evaluator} {level d frames : Nat}
  {w u : World} {p q : Site} {after : World} {c : Closure} {args : List Value}

/-- Without rounds, nothing is evaluated to a value. -/
theorem steps_pos {form : Form} {scope : Nat} {v : Value}
    (ends : w.Ends (ev.eval form scope) (.ok v) u) : 0 < ev.steps := by
  obtain ⟨tail, u', -, forced⟩ := ends.of_bind
  cases steps : ev.steps with
  | zero =>
      rw [force, steps] at forced
      exact absurd forced not_ends_exhausted
  | succ n => omega

/-- The first evaluator of a tower evaluates nothing. -/
theorem level_pos {form : Form} {scope : Nat} {v : Value} (isTower : IsTower settings tower)
    (ends : w.Ends ((tower d).eval form scope) (.ok v) u) : 0 < d := by
  obtain ⟨tail, u', first, -⟩ := ends.of_bind
  cases d with
  | zero =>
      rw [evalTail, isTower.bottom] at first
      exact absurd first not_ends_exhausted
  | succ d => omega

/-- A call at a site is left to be made. -/
theorem IsCall.ends (call : ev.IsCall c args p after) (accepts : c.accepts args.length = true)
    (isTower : IsTower settings tower) (below : ∀ i, level ≤ i → Below ev (tower i))
    (deep : level ≤ d) :
    p.world.Ends ((tower (d + 2)).evalTail p.form p.scope) (.ok (.pending c args)) after := by
  have above : Below ev (tower (d + 1)) := below (d + 1) (by omega)
  have same : ev.settings = (tower (d + 1)).settings := above.settings
  rw [isTower.evalTail_succ]
  cases call with
  | written ordinary callee calls =>
      refine ends_evalList_call (same ▸ ordinary) (above.eval callee) ?_
      exact calls.ends above (isTower.calls _) isTower.readsLiterals
        (steps_pos (above.eval callee)) accepts
  | applied loaded callee evaluated last calls =>
      have here : Below ev (tower d) := below d deep
      have callee := here.eval callee
      obtain ⟨e, rfl⟩ : ∃ e, d = e + 1 := ⟨d - 1, by have := level_pos isTower callee; omega⟩
      obtain ⟨descriptor, found, builtin⟩ := loaded.get? (f := .apply) (by simp [tailForms])
      refine ends_evalList_builtin (same ▸ found) ?_
      rw [builtin, isTower.next]
      refine callee.bind ((here.evalAll evaluated).bind ?_)
      rw [last]
      exact calls.ends here (isTower.calls _) isTower.readsLiterals (steps_pos callee) accepts

/-- A tail call leaves its caller. How deep work is nested depends only on the frames around the call
    and on what is evaluated before it. -/
theorem Path.leaves (path : ev.Path frames p q) (call : ev.IsCall c args q after)
    (accepts : c.accepts args.length = true) (isTower : IsTower settings tower)
    (below : ∀ i, level ≤ i → Below ev (tower i)) (deep : level + 2 * frames + 2 ≤ d) :
    p.world.Ends ((tower d).evalTail p.form p.scope) (.ok (.pending c args)) after := by
  have inner := call.ends accepts isTower below (Nat.le_refl level)
  have outer := path.ends isTower below (by omega) inner
  exact (isTower.below_of_le (by omega)).evalTail outer

end

/-! ### Chains of calls -/

/-- A call that is left to be made, in the world in which it is left. -/
structure LeftCall where
  world : World
  closure : Closure
  args : List Value

/-- The pending call. -/
def LeftCall.value (call : LeftCall) : Value := .pending call.closure call.args

/-- Making one call comes to another one: the last form of the body has the other call in a tail
    position, at most `frames` deep. -/
inductive Link (ev : Evaluator) (frames : Nat) : LeftCall → LeftCall → Prop where
  | mk {w u₁ u₂ u₃ u₄ after : World} {c c' : Closure} {args args' vs : List Value}
      {init : List Form} {last : Form} {frame nesting : Nat} {p : Site}
      (body : c.body = init ++ [last]) (turn : w.Ends yieldTurn (.ok ()) u₁)
      (opens : u₁.Ends (newScope c.scope) (.ok frame) u₂)
      (binds : u₂.Ends (Machine.bindParams c args frame) (.ok ()) u₃)
      (before : u₃.Ends (ev.evalAll init frame) (.ok vs) u₄)
      (path : ev.Path nesting ⟨u₄, last, frame⟩ p) (few : nesting ≤ frames)
      (call : ev.IsCall c' args' p after) (accepts : c'.accepts args'.length = true) :
      Link ev frames ⟨w, c, args⟩ ⟨after, c', args'⟩

/-- Any number of calls, each of which comes to the next one. -/
inductive Chain (ev : Evaluator) (frames : Nat) : (links : Nat) → LeftCall → LeftCall → Prop where
  | here (a : LeftCall) : Chain ev frames 0 a a
  | link {links : Nat} {a b c : LeftCall} (first : ev.Link frames a b)
      (rest : Chain ev frames links b c) : Chain ev frames (links + 1) a c

section

variable {settings : Settings} {tower : Nat → Evaluator} {ev : Evaluator}
  {level d frames links more : Nat} {a b : LeftCall} {w after : World}

/-- A closure that is entered comes to what the last form of its body comes to, in a scope of its own.
    -/
theorem ends_enter {c : Closure} {args vs : List Value} {init : List Form}
    {last : Form} {frame : Nat} {v : Value} {u₁ u₂ u₃ : World} (body : c.body = init ++ [last])
    (opens : w.Ends (newScope c.scope) (.ok frame) u₁)
    (binds : u₁.Ends (Machine.bindParams c args frame) (.ok ()) u₂)
    (before : u₂.Ends (ev.evalAll init frame) (.ok vs) u₃)
    (ends : u₃.Ends (ev.evalTail last frame) (.ok v) after) :
    w.Ends (ev.enter c args) (.ok v) after := by
  have text : ∃ text, u₁.Ends (ev.entryText c args) (.ok text) u₁ := by
    unfold entryText
    split
    · exact ⟨_, ends_of_done rfl (by simp)⟩
    · exact ⟨_, ends_pure u₁ ""⟩
  obtain ⟨text, shown⟩ := text
  refine opens.bind (shown.bind (ends_inFrame _ (binds.bind ?_)))
  rw [body]
  exact ends_evalBody before ends

/-- A link is one round of the loop that makes the calls that are left. -/
theorem Link.round (link : ev.Link frames a b) (isTower : IsTower settings tower)
    (below : ∀ i, level ≤ i → Below ev (tower i)) (deep : level + 2 * frames + 3 ≤ d) :
    a.world.Ends ((tower d).forceRound a.value) (.ok (.again b.value)) b.world := by
  obtain ⟨body, turn, opens, binds, before, path, few, call, accepts⟩ := link
  obtain ⟨d, rfl⟩ : ∃ k, d = k + 1 := ⟨d - 1, by omega⟩
  have tail := path.leaves call accepts isTower below (d := d) (by omega)
  have entered := ends_enter body opens binds ((below d (by omega)).evalAll before) tail
  refine turn.bind ?_
  rw [isTower.next]
  exact entered.bind (ends_pure _ _)

/-- What the last call of a chain comes to in a number of rounds, the first one comes to with one more
    round for every link. The induction is on the chain. -/
theorem Chain.iterate {outcome : Outcome Value} (chain : ev.Chain frames links a b)
    (isTower : IsTower settings tower) (below : ∀ i, level ≤ i → Below ev (tower i))
    (deep : level + 2 * frames + 3 ≤ d)
    (ends : b.world.Ends (iterate (tower d).forceRound more b.value) outcome after) :
    a.world.Ends (iterate (tower d).forceRound (more + links) a.value) outcome after := by
  induction chain with
  | here a => exact ends
  | @link links a b c first _ ih =>
      rw [← Nat.add_assoc, iterate_succ]
      exact (first.round isTower below deep).bind (ih ends)

/-- A call whose body comes to a value takes two rounds: one for the call and one to see the value. -/
theorem ends_iterate_last {v : Value} (plain : v.IsPlain)
    (ends : w.Ends (yieldTurn >>= fun _ => ev.perform (.enter b.closure b.args)) (.ok v) after) :
    w.Ends (iterate ev.forceRound (more + 2) b.value) (.ok v) after := by
  obtain ⟨_, u, turn, entered⟩ := ends.of_bind
  have stops : ev.forceRound v = pure (.stop v) := by
    rw [forceRound]
    exact plain
  have made : w.Ends (ev.forceRound b.value) (.ok (.again v)) after :=
    turn.bind (entered.bind (ends_pure _ _))
  have seen : after.Ends (iterate ev.forceRound (more + 1) v) (.ok v) after := by
    rw [iterate_succ, stops]
    exact ends_pure after v
  rw [iterate_succ]
  exact made.bind seen

end

end Evaluator

/-- A call of a closure in a tail position is left to be made: whatever is evaluated before it has been,
    and nothing of the body of the closure. So the loop that makes such calls gets from one to the next
    in a single round, and any number of them needs no deeper nesting than the forms around a single one
    of them do. -/
theorem calls_in_tail_position (settings : Settings) (frames : Nat) :
    (∀ (steps : Nat) (p q : Site) (c : Closure) (args : List Value) (after : World),
      let ev := Evaluator.ofSteps settings .deferred steps
      ev.Path frames p q → ev.IsCall c args q after → c.accepts args.length = true →
        ∀ more, steps + 2 * frames + 2 ≤ more →
          p.world.Ends ((Evaluator.ofSteps settings .deferred more).evalTail p.form p.scope)
            (.ok (.pending c args)) after) ∧
    ∀ (rounds depth : Nat) (a b : LeftCall),
      let ev := within settings rounds depth
      (ev.Link frames a b → ∀ more, rounds ≤ more →
        a.world.Ends ((within settings more (depth + 2 * frames + 3)).forceRound a.value)
          (.ok (.again b.value)) b.world) ∧
      ∀ (links : Nat) (v : Value) (after : World), ev.Chain frames links a b → v.IsPlain →
        b.world.Ends (yieldTurn >>= fun _ => ev.perform (.enter b.closure b.args)) (.ok v) after →
          ∀ more, rounds ≤ more → links + 2 ≤ more →
            a.world.Ends ((within settings more (depth + 2 * frames + 3)).force a.value) (.ok v)
              after := by
  constructor
  · intro steps p q c args after ev path call accepts more enough
    have tower := ofSteps_isTower settings
    exact path.leaves call accepts tower (fun i => tower.below_of_le) enough
  · intro rounds depth a b ev
    constructor
    · intro link more enough
      have below (i : Nat) (deeper : depth ≤ i) : Below ev (within settings more i) :=
        within_below_within enough deeper
      exact link.round (within_isTower settings more) below (Nat.le_refl _)
    · intro links v after chain plain last more enough many
      obtain ⟨spare, rfl⟩ : ∃ spare, more = spare + 2 + links := ⟨more - (links + 2), by omega⟩
      have below (i : Nat) (deeper : depth ≤ i) :
          Below ev (within settings (spare + 2 + links) i) := within_below_within enough deeper
      obtain ⟨_, u, turn, entered⟩ := last.of_bind
      exact chain.iterate (within_isTower settings _) below (Nat.le_refl _)
        (ends_iterate_last plain (turn.bind ((below _ (by omega)).enter entered)))

/-! ### A call in nested forms -/

/-- A world in which the plugins are loaded, with one empty scope. -/
def tailWorld : World where
  state := { managers := #[(({} : Manager).loadAll tailPlugins).2], scopes := #[{}] }

theorem tailWorld_loaded : tailWorld.Loaded {} := by
  unfold World.Loaded
  decide +kernel

/-- A literal for the true value. -/
def trueForm : Form := .literal (.boolean true)

/-- A closure with one parameter. -/
def answering : Closure := ⟨0, some "answer", ["y"], none, [.boolean false], 0⟩

/-- A call of the closure, which is given as a literal. -/
def answerCall : Form := .list [.literal (.function answering), trueForm]

/-- The form `(and true (answer true))`. -/
def callInAnd : Form := .list [.symbol "and", trueForm, answerCall]

/-- The form `(let [x true] (and true (answer true)))`. -/
def callInLet : Form := .list [.symbol "let", .vector [.symbol "x", trueForm], callInAnd]

/-- The form `(when true (let [x true] (and true (answer true))))`. -/
def nestedCall : Form := .list [.symbol "when", trueForm, callInLet]

/-- A closure with the form for its body. -/
def relaying : Closure := ⟨1, some "relay", [], none, [nestedCall], 0⟩

/-- The world with a scope inside another one that binds one variable, as `let` makes it. -/
def World.withVariable (w : World) (scope : Nat) (name : String) (v : Value) : World :=
  ⟨{ w.state with scopes := (w.state.scopes.add (some scope)).set w.state.scopes.size name v },
    w.threads⟩

namespace Evaluator

variable {ev : Evaluator} {w : World} {scope : Nat}

theorem ends_eval_literal (reads : ev.ReadsLiterals) (positive : 0 < ev.steps) {v : Value}
    (plain : v.IsPlain) : w.Ends (ev.eval (.literal v) scope) (.ok v) w := by
  have forced : ev.force v = pure v := isForced_of_plain positive plain
  rw [eval, reads, run_pure_bind, forced]
  exact ends_pure w v

theorem ends_evalAll_single {form : Form} {v : Value} {after : World}
    (ends : w.Ends (ev.eval form scope) (.ok v) after) :
    w.Ends (ev.evalAll [form] scope) (.ok [v]) after := by
  rw [evalAll_cons]
  exact ends.bind (ends_pure after [v])

/-- The call is three frames deep, and its site is in the scope that `let` makes. -/
theorem nestedCall_path (scope : Nat) (settings : ev.settings = {}) (reads : ev.ReadsLiterals)
    (positive : 0 < ev.steps) (loaded : w.Loaded {}) :
    ∃ q, ev.Path 3 ⟨w, nestedCall, scope⟩ q ∧
      ev.IsCall answering [.boolean true] q (w.withVariable scope "x" (.boolean true)) := by
  have literal (w : World) (scope : Nat) : w.Ends (ev.eval trueForm scope) (.ok (.boolean true)) w :=
    ends_eval_literal reads positive (by simp [Value.IsPlain])
  have none (w : World) (scope : Nat) : w.Ends (ev.evalAll [] scope) (.ok []) w := ends_pure w []
  let bound := w.withVariable scope "x" (.boolean true)
  let opened : World := ⟨(w.state.addScope (some scope)).2, w.threads⟩
  have binds : opened.Ends (ev.bindPairs [.symbol "x", trueForm] w.state.scopes.size) (.ok ()) bound :=
    (literal opened _).bind (ends_of_done rfl (by simp))
  have loaded : w.Loaded ev.settings := settings ▸ loaded
  have still_loaded : bound.Loaded ev.settings := loaded
  have inWhen : ev.Selects w scope .when (trueForm :: ([] ++ [callInLet])) ⟨w, callInLet, scope⟩ :=
    .when (literal w scope) rfl (none w scope)
  have inLet : ev.Selects w scope .bind (.vector [.symbol "x", trueForm] :: ([] ++ [callInAnd]))
      ⟨bound, callInAnd, w.state.scopes.size⟩ :=
    .bind (ends_of_done rfl (by simp)) (ends_of_done rfl (by simp)) binds (none bound _)
  have inAnd : ev.Selects bound w.state.scopes.size .and ([trueForm] ++ [answerCall])
      ⟨bound, answerCall, w.state.scopes.size⟩ :=
    .and (ends_evalAll_single (literal bound _)) (by simp [Value.isTruthy])
  have called : ev.CallsClosure answering bound w.state.scopes.size
      (partials (.function answering) []) [trueForm] ([].flatten ++ [.boolean true]) bound :=
    .direct (by simp) (ends_evalAll_single (literal bound _))
  refine ⟨_, .into (.special loaded inWhen) (.into (.special loaded inLet)
    (.into (.special still_loaded inAnd) (.here _))), ?_⟩
  exact .written (fun _ symbol => nomatch symbol)
    (ends_eval_literal reads positive (by simp [Value.IsPlain])) called

end Evaluator

/-- Nothing of the body of the closure has been evaluated where the call is left: there is only the
    scope that `let` makes. Then the loop makes the call in a round of its own. -/
theorem nestedCall_leaves :
    tailWorld.Ends ((Evaluator.ofSteps {} .deferred 9).evalTail nestedCall 0)
      (.ok (.pending answering [.boolean true])) (tailWorld.withVariable 0 "x" (.boolean true)) ∧
    ∃ after : World, after.state.scopes.size = 4 ∧
      tailWorld.Ends ((within {} 3 11).force (.pending relaying [])) (.ok (.boolean false)) after := by
  obtain ⟨tail, loops⟩ := calls_in_tail_position {} 3
  constructor
  · have reads : (Evaluator.ofSteps {} .deferred 1).ReadsLiterals := readsLiterals_ofSteps 0
    obtain ⟨q, path, call⟩ := nestedCall_path 0 rfl reads (by decide) tailWorld_loaded
    exact tail 1 _ q _ _ _ path call rfl 9 (by decide)
  · let entered : World := ⟨(tailWorld.state.addScope (some 0)).2, []⟩
    let left : World := entered.withVariable 1 "x" (.boolean true)
    have reads : (within {} 1 2).ReadsLiterals := (within_isTower {} 1).readsLiterals
    have loaded : entered.Loaded {} := tailWorld_loaded
    obtain ⟨q, path, call⟩ := nestedCall_path 1 rfl reads (by decide) loaded
    have body : relaying.body = [] ++ [nestedCall] := rfl
    have link : (within {} 1 2).Link 3 ⟨tailWorld, relaying, []⟩
        ⟨left, answering, [.boolean true]⟩ :=
      .mk body (ends_of_done rfl (by simp)) (ends_of_done rfl (by simp))
        (ends_of_done rfl (by simp)) (ends_pure _ []) path (Nat.le_refl 3) call rfl
    have plain : (Value.boolean false).IsPlain := by simp [Value.IsPlain]
    have answers : ∃ after : World, after.state.scopes.size = 4 ∧
        left.Ends (yieldTurn >>= fun _ => (within {} 1 2).perform
          (.enter answering [.boolean true])) (.ok (.boolean false)) after := by
      refine ⟨_, ?_, ends_of_done rfl (by simp)⟩
      rfl
    obtain ⟨after, size, answers⟩ := answers
    exact ⟨after, size,
      (loops 1 2 _ _).2 1 _ after (.link link (.here _)) plain answers 3 (by decide) (by decide)⟩

end PluginLisp
