import PluginLisp.Proofs.Data.Results
import PluginLisp.Proofs.Number.Digits
import PluginLisp.Template
import Mathlib.Logic.ExistsUnique

/-!
Templates piece by piece. A template that can be expanded is made of characters and directives, in one
way only. Each directive takes the next argument or none, so a template that is given as many
arguments as its directives take leaves the rest of the template with the rest of the arguments.

Main result: `templates_work_piece_by_piece`.
-/

namespace PluginLisp.Template

/-! ### Parts -/

def Directive.char : Directive → Char
  | percent => '%'
  | text => 's'
  | integer => 'd'
  | float => 'f'

@[simp] theorem Directive.ofLetter?_char (d : Directive) : ofLetter? d.char = some d := by
  cases d <;> rfl

theorem Directive.eq_char_of_ofLetter? {c : Char} {d : Directive} (read : ofLetter? c = some d) :
    c = d.char := by
  unfold ofLetter? at read
  split at read <;> cases read <;> rfl

/-- The digits of a precision: there are some, and they write a number of sixty-four bits. -/
structure Precision where
  digits : List Char
  written : digits ≠ []
  decimal : ∀ c ∈ digits, Number.isDigit c = true
  small : Number.digitsValue digits < Number.twoPow 64

def Precision.places (p : Precision) : Nat := Number.digitsValue p.digits

/-- The precision as it stands before the letter of a directive. -/
def precisionSpelling : Option Precision → List Char
  | none => []
  | some p => '.' :: p.digits

/-- A part of a template: a character that stands for itself, or a directive. -/
inductive Part where
  | plain (c : Char) (ordinary : c ≠ '%')
  | directive (precision : Option Precision) (d : Directive)

namespace Part

def spelling : Part → List Char
  | plain c _ => [c]
  | directive precision d => '%' :: (precisionSpelling precision ++ [d.char])

/-- Every directive but the percent sign takes an argument, whatever its precision. -/
def takesArgument : Part → Bool
  | plain _ _ | directive _ .percent => false
  | directive _ _ => true

/-- The text of a part and the arguments it leaves. -/
def expand (cells : Cells) (args : List Value) : Part → Except Error (String × List Value)
  | plain c _ => .ok (c.toString, args)
  | directive precision d => expandDirective cells d (precision.map Precision.places) args

end Part

/-- A template is made of parts that take `n` arguments. -/
def Takes (template : String) (n : Nat) : Prop :=
  ∃ parts : List Part, template.toList = parts.flatMap Part.spelling ∧
    parts.countP Part.takesArgument = n

/-! ### Reading one part -/

variable {cells : Cells} {args left more : List Value} {cs rest : List Char} {steps : Nat}
  {precision : Option Precision} {d : Directive}

/-- A precision and its directive are read back from their spelling. -/
theorem readPrecision_spelling :
    readPrecision (precisionSpelling precision ++ d.char :: rest) =
      .ok (precision.map Precision.places, d.char :: rest) := by
  cases precision with
  | none => cases d <;> rfl
  | some p =>
      have stops : ∀ c ∈ (d.char :: rest).head?, Number.isDigit c = false := by
        cases d <;> simp [Directive.char, Number.isDigit]
      have digits := (Number.splitWhile (d.char :: rest) p.decimal stops).1
      have fits : (p.digits.isEmpty ||
          decide (Number.twoPow 64 ≤ Number.digitsValue p.digits)) = false := by
        rw [Bool.or_eq_false_iff, List.isEmpty_eq_false_iff, decide_eq_false_iff_not, Nat.not_le]
        exact ⟨p.written, p.small⟩
      show readPrecision ('.' :: (p.digits ++ d.char :: rest)) = _
      simp only [readPrecision, digits, fits, Bool.false_eq_true, if_false, List.drop_left]
      rfl

/-- A precision that can be read is one that is spelled. -/
theorem exists_precision {places : Option Nat} (read : readPrecision cs = .ok (places, rest)) :
    ∃ precision, cs = precisionSpelling precision ++ rest := by
  unfold readPrecision at read
  split at read
  · next behind =>
      simp only [Bool.or_eq_true, decide_eq_true_eq, List.isEmpty_iff] at read
      split at read
      · cases read
      · next fits =>
          obtain ⟨written, small⟩ := not_or.1 fits
          cases read
          have decimal : ∀ c ∈ behind.takeWhile Number.isDigit, Number.isDigit c = true :=
            List.all_eq_true.1 List.all_takeWhile
          have whole := List.prefix_iff_eq_append.1 (List.takeWhile_prefix (l := behind) Number.isDigit)
          exact ⟨some ⟨_, written, decimal, Nat.lt_of_not_le small⟩, (congrArg ('.' :: ·) whole).symm⟩
  · cases read
    exact ⟨none, rfl⟩

/-- A template that begins with a part. -/
theorem expandFrom_part (p : Part) :
    expandFrom cells (steps + 1) args (p.spelling ++ rest) = (do
      let (piece, left) ← p.expand cells args
      let tail ← expandFrom cells steps left rest
      return piece ++ tail) := by
  cases p with
  | plain c ordinary =>
      show expandFrom cells (steps + 1) args (c :: rest) = _
      rw [expandFrom]
      · rfl
      · exact ordinary
  | directive precision d =>
      show expandFrom cells (steps + 1) args
        ('%' :: (precisionSpelling precision ++ [d.char] ++ rest)) = _
      rw [List.append_assoc, List.singleton_append, expandFrom, readPrecision_spelling]
      cases d <;> rfl

/-- Every template that is not empty begins with a part, or with something for which every expansion
    of it fails. -/
theorem exists_part_or_fault (c : Char) (rest : List Char) :
    (∃ (p : Part) (behind : List Char), c :: rest = p.spelling ++ behind) ∨
      ∃ e, ∀ cells steps args, expandFrom cells (steps + 1) args (c :: rest) = .error e := by
  by_cases percent : c = '%'
  · subst percent
    cases read : readPrecision rest with
    | error e =>
        refine .inr ⟨e, fun cells steps args => ?_⟩
        rw [expandFrom, read]
        rfl
    | ok precise =>
        obtain ⟨places, rest'⟩ := precise
        obtain ⟨precision, rfl⟩ := exists_precision read
        cases rest' with
        | nil =>
            refine .inr ⟨fault "template ends with %", fun cells steps args => ?_⟩
            rw [expandFrom, read]
            rfl
        | cons letter behind =>
            cases known : Directive.ofLetter? letter with
            | none =>
                refine .inr ⟨fault ("unknown directive %" ++ letter.toString),
                  fun cells steps args => ?_⟩
                rw [expandFrom, read]
                simp only [bind, Except.bind, known]
            | some d =>
                refine .inl ⟨.directive precision d, behind, ?_⟩
                rw [Directive.eq_char_of_ofLetter? known]
                simp [Part.spelling]
  · exact .inl ⟨.plain c percent, rest, rfl⟩

theorem Part.exists_length_eq (p : Part) : ∃ n, p.spelling.length = n + 1 := by
  cases p <;> exact ⟨_, rfl⟩

/-- What holds of the empty template, of templates that begin with a part if it does of what is behind,
    and of templates that begin with a fault, holds of all. -/
theorem template_induction {motive : List Char → Prop} (nil : motive [])
    (part : ∀ (p : Part) (rest : List Char), motive rest → motive (p.spelling ++ rest))
    (fault : ∀ c rest e, (∀ cells steps args,
      expandFrom cells (steps + 1) args (c :: rest) = .error e) → motive (c :: rest))
    (cs : List Char) : motive cs := by
  induction short : cs.length using Nat.strongRecOn generalizing cs with
  | _ length ih =>
      cases cs with
      | nil => exact nil
      | cons c rest =>
          obtain ⟨p, behind, whole⟩ | ⟨e, fails⟩ := exists_part_or_fault c rest
          · -- What is behind a part is shorter.
            have longer : behind.length < (c :: rest).length := by
              obtain ⟨n, length⟩ := p.exists_length_eq
              rw [whole, List.length_append, length]
              omega
            rw [whole]
            exact part p behind (ih _ (short ▸ longer) behind rfl)
          · exact fault c rest e fails

/-! ### Reading all parts -/

/-- The expansion of a template with as many steps as it has characters. -/
def expandChars (cells : Cells) (args : List Value) (cs : List Char) : Except Error String :=
  expandFrom cells cs.length args cs

/-- Further steps change nothing. -/
theorem expandFrom_eq_expandChars (enough : cs.length ≤ steps) :
    expandFrom cells steps args cs = expandChars cells args cs := by
  induction cs using template_induction generalizing args steps with
  | nil => cases steps <;> rfl
  | part p rest ih =>
      obtain ⟨n, length⟩ := p.exists_length_eq
      rw [List.length_append, length, Nat.add_right_comm] at enough
      obtain ⟨steps, rfl⟩ := Nat.exists_eq_succ_of_ne_zero (Nat.ne_of_gt (Nat.zero_lt_of_lt enough))
      have within : rest.length ≤ n + rest.length := Nat.le_add_left _ _
      rw [expandChars, List.length_append, length, Nat.add_right_comm, expandFrom_part, expandFrom_part]
      simp only [ih within, ih (Nat.le_trans within (Nat.le_of_succ_le_succ enough))]
  | fault c rest e fails =>
      obtain ⟨steps, rfl⟩ := Nat.exists_eq_succ_of_ne_zero (Nat.ne_of_gt (Nat.zero_lt_of_lt enough))
      rw [expandChars, List.length_cons, fails, fails]

/-- Expanding a part in front of others expands the part and then the others. -/
theorem expandChars_part (p : Part) : expandChars cells args (p.spelling ++ rest) = (do
    let (piece, left) ← p.expand cells args
    let tail ← expandChars cells left rest
    return piece ++ tail) := by
  obtain ⟨n, length⟩ := p.exists_length_eq
  rw [expandChars, List.length_append, length, Nat.add_right_comm, expandFrom_part]
  simp only [expandFrom_eq_expandChars (Nat.le_add_left rest.length n)]

/-- The text of all parts and the arguments they leave. -/
def expandParts (cells : Cells) : List Value → List Part → Except Error (String × List Value)
  | args, [] => .ok ("", args)
  | args, p :: parts => do
      let (piece, left) ← p.expand cells args
      let (tail, left) ← expandParts cells left parts
      return (piece ++ tail, left)

theorem expandChars_parts (parts : List Part) :
    expandChars cells args (parts.flatMap Part.spelling ++ rest) = (do
      let (front, left) ← expandParts cells args parts
      let tail ← expandChars cells left rest
      return front ++ tail) := by
  induction parts generalizing args with
  | nil =>
      show expandChars cells args rest = expandChars cells args rest >>= fun tail => pure ("" ++ tail)
      simp
  | cons p parts ih =>
      rw [List.flatMap_cons, List.append_assoc, expandChars_part, expandParts]
      simp only [ih, bind_assoc, pure_bind, String.append_assoc]

/-- A template with an expansion is made of parts. -/
theorem exists_parts {out : String} (expands : expandChars cells args cs = .ok out) :
    ∃ parts : List Part, cs = parts.flatMap Part.spelling := by
  induction cs using template_induction generalizing args out with
  | nil => exact ⟨[], rfl⟩
  | part p rest ih =>
      rw [expandChars_part] at expands
      obtain ⟨⟨piece, left⟩, -, further⟩ := bind_eq_ok_iff.1 expands
      obtain ⟨tail, expandsRest, -⟩ := bind_eq_ok_iff.1 further
      obtain ⟨parts, rfl⟩ := ih expandsRest
      exact ⟨p :: parts, rfl⟩
  | fault c rest e fails =>
      rw [expandChars, List.length_cons, fails] at expands
      cases expands

/-! ### Arguments -/

/-- A part takes one argument or none, and leaves further ones as they are. -/
theorem Part.expand_append {p : Part} {piece : String}
    (expands : p.expand cells args = .ok (piece, left)) :
    p.expand cells (args ++ more) = .ok (piece, left ++ more) ∧
      args.length = left.length + [p].countP takesArgument := by
  cases p with
  | plain c ordinary =>
      cases expands
      exact ⟨rfl, rfl⟩
  | directive precision d =>
      cases d with
      | percent =>
          cases expands
          exact ⟨rfl, rfl⟩
      | text | integer | float =>
          cases args with
          | nil => cases expands
          | cons v rest =>
              obtain ⟨shown, taken, joined⟩ := bind_eq_ok_iff.1 expands
              cases joined
              refine ⟨?_, rfl⟩
              show (argumentText cells _ _ v >>= fun shown => pure (shown, left ++ more)) = _
              rw [taken]
              rfl

/-- Arguments that are left over are not looked at. -/
theorem expandParts_append {parts : List Part} {front : String}
    (expands : expandParts cells args parts = .ok (front, left)) :
    expandParts cells (args ++ more) parts = .ok (front, left ++ more) ∧
      args.length = left.length + parts.countP Part.takesArgument := by
  induction parts generalizing args front with
  | nil =>
      cases expands
      exact ⟨rfl, rfl⟩
  | cons p parts ih =>
      obtain ⟨⟨piece, between⟩, first, further⟩ := bind_eq_ok_iff.1 expands
      obtain ⟨⟨tail, last⟩, rest, joined⟩ := bind_eq_ok_iff.1 further
      cases joined
      obtain ⟨first', taken⟩ : p.expand cells (args ++ more) = .ok (piece, between ++ more) ∧ _ :=
        Part.expand_append first
      obtain ⟨rest', takenByRest⟩ := ih rest
      constructor
      · rw [expandParts, first']
        show expandParts cells (between ++ more) parts >>= _ = _
        rw [rest']
        rfl
      · have both : ([p] ++ parts).countP Part.takesArgument =
            [p].countP Part.takesArgument + parts.countP Part.takesArgument := List.countP_append
        rw [List.singleton_append] at both
        omega

/-- Parts are read in one way only. -/
theorem Part.spelling_append_inj {p q : Part} {rest' : List Char}
    (same : p.spelling ++ rest = q.spelling ++ rest') :
    p.takesArgument = q.takesArgument ∧ rest = rest' := by
  cases p with
  | plain c ordinary =>
      cases q with
      | plain => exact ⟨rfl, (List.cons.inj same).2⟩
      | directive => exact absurd (List.cons.inj same).1 ordinary
  | directive precision d =>
      cases q with
      | plain c ordinary => exact absurd (List.cons.inj same).1.symm ordinary
      | directive precision' d' =>
          have behind : precisionSpelling precision ++ d.char :: rest =
              precisionSpelling precision' ++ d'.char :: rest' := by
            simpa [spelling] using same
          -- Reading a precision stops at the letter on both sides.
          have read := congrArg readPrecision behind
          rw [readPrecision_spelling, readPrecision_spelling] at read
          obtain ⟨letters, rfl⟩ := List.cons.inj (Prod.mk.inj (Except.ok.inj read)).2
          have directives := congrArg Directive.ofLetter? letters
          rw [Directive.ofLetter?_char, Directive.ofLetter?_char] at directives
          cases directives
          cases d <;> exact ⟨rfl, rfl⟩

theorem flatMap_spelling_cons_ne_nil (p : Part) (parts : List Part) :
    (p :: parts).flatMap Part.spelling ≠ [] := by
  cases p <;> exact List.cons_ne_nil _ _

theorem countP_eq_of_flatMap_eq {parts parts' : List Part}
    (same : parts.flatMap Part.spelling = parts'.flatMap Part.spelling) :
    parts.countP Part.takesArgument = parts'.countP Part.takesArgument := by
  induction parts generalizing parts' with
  | nil =>
      cases parts' with
      | nil => rfl
      | cons q others => exact absurd same.symm (flatMap_spelling_cons_ne_nil q others)
  | cons p parts ih =>
      cases parts' with
      | nil => exact absurd same (flatMap_spelling_cons_ne_nil p parts)
      | cons q others =>
          obtain ⟨alike, further⟩ := Part.spelling_append_inj same
          rw [List.countP_cons, List.countP_cons, alike, ih further]

/-- A template takes one number of arguments. -/
theorem Takes.unique {template : String} {n m : Nat} (takes : Takes template n)
    (again : Takes template m) : n = m := by
  obtain ⟨parts, spelled, rfl⟩ := takes
  obtain ⟨parts', spelled', rfl⟩ := again
  exact countP_eq_of_flatMap_eq (spelled.symm.trans spelled')

/-- A template that can be expanded takes a certain number of arguments. -/
theorem existsUnique_takes {template out : String} (expands : expand cells template args = .ok out) :
    ∃! n, Takes template n := by
  obtain ⟨parts, spelled⟩ := exists_parts expands
  exact ⟨_, ⟨parts, spelled, rfl⟩, fun m again => again.unique ⟨parts, spelled, rfl⟩⟩

/-! ### Templates one behind the other -/

/-- Two templates in a row are expanded one after the other. -/
theorem expand_append {first second out : String} (expands : expand cells first args = .ok out)
    (takes : Takes first args.length) :
    expand cells (first ++ second) (args ++ more) = (expand cells second more).map (out ++ ·) := by
  obtain ⟨parts, spelled, counted⟩ := takes
  have whole : expandChars cells args (parts.flatMap Part.spelling ++ []) = .ok out := by
    rw [List.append_nil, ← spelled]
    exact expands
  rw [expandChars_parts] at whole
  obtain ⟨⟨front, left⟩, expanded, joined⟩ := bind_eq_ok_iff.1 whole
  have same : front ++ "" = out := Except.ok.inj joined
  rw [String.append_empty] at same
  subst same
  obtain ⟨expandedMore, taken⟩ :
      expandParts cells (args ++ more) parts = .ok (front, left ++ more) ∧ _ :=
    expandParts_append expanded
  -- All arguments are taken, so the ones that are left are those of the second template.
  have none_left : left = [] := List.length_eq_zero_iff.1 (by omega)
  show expandChars cells (args ++ more) (first ++ second).toList = _
  rw [String.toList_append, spelled, expandChars_parts, expandedMore, none_left]
  show (expandChars cells more second.toList >>= fun tail => pure (front ++ tail)) =
    (expandChars cells more second.toList).map (front ++ ·)
  cases expandChars cells more second.toList <;> rfl

/-- The text with every percent sign doubled. -/
def doubled (s : String) : String :=
  String.ofList (s.toList.flatMap fun c => if c = '%' then ['%', '%'] else [c])

/-- The part that stands for a character. -/
def Part.standing (c : Char) : Part :=
  if percent : c = '%' then .directive none .percent else .plain c percent

theorem expandParts_standing (cs : List Char) :
    expandParts cells args (cs.map Part.standing) = .ok (String.ofList cs, args) := by
  induction cs with
  | nil => rfl
  | cons c rest ih =>
      have first : (Part.standing c).expand cells args = .ok (c.toString, args) := by
        unfold Part.standing
        split
        · next percent =>
            rw [percent]
            rfl
        · rfl
      rw [List.map_cons, expandParts, first]
      show (expandParts cells args (rest.map Part.standing) >>= fun tail =>
        pure (c.toString ++ tail.1, tail.2)) = _
      rw [ih]
      refine congrArg Except.ok (Prod.ext (String.toList_injective ?_) rfl)
      simp

theorem toList_doubled (s : String) :
    (doubled s).toList = (s.toList.map Part.standing).flatMap Part.spelling := by
  have one (c : Char) : (if c = '%' then ['%', '%'] else [c]) = (Part.standing c).spelling := by
    unfold Part.standing
    split <;> rfl
  rw [doubled, String.toList_ofList, List.flatMap_map]
  exact congrArg s.toList.flatMap (funext one)

/-- A text with its percent signs doubled expands to itself. -/
theorem expand_doubled (s : String) : expand cells (doubled s) args = .ok s := by
  show expandChars cells args (doubled s).toList = _
  rw [toList_doubled, ← List.append_nil (List.flatMap _ _), expandChars_parts, expandParts_standing]
  show Except.ok (String.ofList s.toList ++ "") = _
  rw [String.append_empty, String.ofList_toList]

/-- Templates work piece by piece. One that can be expanded takes a certain number of arguments. Given
    exactly these, it leaves a template behind it to the arguments behind them: the two are expanded to
    both texts, or fail as the second one does. A text with every percent sign doubled is expanded to
    itself, whatever the arguments. -/
theorem templates_work_piece_by_piece (cells : Cells) :
    (∀ template args out, expand cells template args = .ok out → ∃! n, Takes template n) ∧
    (∀ first second args more out, expand cells first args = .ok out → Takes first args.length →
      expand cells (first ++ second) (args ++ more) = (expand cells second more).map (out ++ ·)) ∧
    ∀ s args, expand cells (doubled s) args = .ok s :=
  ⟨fun _ _ _ expands => existsUnique_takes expands,
    fun _ _ _ _ _ expands takes => expand_append expands takes, fun s _ => expand_doubled s⟩

/-- A precision before a letter that has no use for it, and a second template that lacks an argument. -/
theorem templates_work_piece_by_piece_precise :
    let cells : Cells := ⟨fun _ => "", fun _ => 0, fun _ => ""⟩
    expand cells "a%.3s%%" [.text "b"] = .ok "ab%" ∧ Takes "a%.3s%%" 1 ∧
      (∃! n, Takes "a%.3s%%" n) ∧
      expand cells ("a%.3s%%" ++ "%s!") [.text "b", .boolean true] = .ok "ab%true!" ∧
      expand cells ("a%.3s%%" ++ "%s!") [.text "b"] = .error (fault "missing argument for %s") ∧
      expand cells (doubled "5%") [] = .ok "5%" := by
  intro cells
  obtain ⟨taken, behind, percents⟩ := templates_work_piece_by_piece cells
  have three : ∀ c ∈ ['3'], Number.isDigit c = true := List.forall_mem_singleton.2 rfl
  have spelled : "a%.3s%%".toList = List.flatMap Part.spelling
      [.plain 'a' (by decide), .directive (some ⟨['3'], by decide, three, by decide⟩) .text,
        .directive none .percent] := by rfl
  have takes : Takes "a%.3s%%" 1 := ⟨_, spelled, rfl⟩
  have expands : expand cells "a%.3s%%" [.text "b"] = .ok "ab%" := by
    rfl
  exact ⟨expands, takes, taken _ _ _ expands,
    behind _ "%s!" [.text "b"] [.boolean true] _ expands takes,
    behind _ "%s!" [.text "b"] [] _ expands takes, percents "5%" []⟩

end PluginLisp.Template
