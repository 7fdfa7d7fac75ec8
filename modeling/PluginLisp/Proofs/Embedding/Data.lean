import PluginLisp.Proofs.Data.Entries
import PluginLisp.Value.Code
import PluginLisp.Value.Order
import PluginLisp.Value.Text

/-!
Decimals embedded in code. A decimal literal that is written as its decimal prints may as well be the
decimal itself, embedded as a value: it evaluates to the same, prints the same, is the same data, and
is of the same kind. Embedding does that everywhere in a form, a closure or a value. What can be seen
of a value is the same after it, since the code of a closure cannot be seen; and a function on values
commutes with it.

Main results: `Value.embed_embed`, `Value.show_embed`, `Value.equal_embed`, `Form.quote_embed`.
-/

namespace PluginLisp

/-! ### Entries with their values changed -/

namespace Assoc

variable {α β : Type} {f : α → β} {key : String}

/-- Changes the values of all entries. -/
def mapValues (f : α → β) (entries : Assoc α) : Assoc β := entries.map fun (k, v) => (k, f v)

@[simp] theorem mapValues_nil : mapValues f ([] : Assoc α) = [] := rfl

@[simp] theorem mapValues_cons (entry : String × α) (rest : Assoc α) :
    mapValues f (entry :: rest) = (entry.1, f entry.2) :: mapValues f rest := rfl

/-- Changing the values keeps the number of entries. -/
@[simp] theorem length_mapValues (entries : Assoc α) :
    (mapValues f entries).length = entries.length := List.length_map _

/-- Changing the values keeps the names. -/
@[simp] theorem names_mapValues (entries : Assoc α) : (mapValues f entries).names = entries.names := by
  simp [mapValues, names, Function.comp_def]

@[simp] theorem items_mapValues (entries : Assoc α) :
    (mapValues f entries).items = entries.items.map f := by
  simp [mapValues, items, Function.comp_def]

/-- Looking up a name in entries with changed values gives the changed value. -/
@[simp] theorem get?_mapValues (entries : Assoc α) :
    get? key (mapValues f entries) = (get? key entries).map f := by
  induction entries with
  | nil => rfl
  | cons entry rest ih =>
      simp only [mapValues_cons, get?, ih]
      split <;> rfl

/-- Values can be changed before or after an entry is put. -/
@[simp] theorem put_mapValues (value : α) (entries : Assoc α) :
    put key (f value) (mapValues f entries) = mapValues f (put key value entries) := by
  induction entries with
  | nil => rfl
  | cons entry rest ih =>
      simp only [mapValues_cons, put, ih]
      split
      · rfl
      · split <;> rfl

/-- Values can be changed before or after an entry is removed. -/
@[simp] theorem remove_mapValues (entries : Assoc α) :
    remove key (mapValues f entries) = mapValues f (remove key entries) := by
  induction entries with
  | nil => rfl
  | cons entry rest ih =>
      simp only [mapValues_cons, remove, ih]
      split <;> rfl

/-- Values can be changed before or after entries are laid over others. -/
@[simp] theorem overlay_mapValues (first second : Assoc α) :
    overlay (mapValues f first) (mapValues f second) = mapValues f (overlay first second) := by
  induction second generalizing first with
  | nil => rfl
  | cons entry rest ih =>
      rw [mapValues_cons]
      simp only [overlay, List.foldl_cons] at ih ⊢
      rw [put_mapValues, ih]

end Assoc

/-! ### Embedding -/

/-- The decimal of a literal that is written as the decimal prints, as a value; any other literal as it
    is. -/
def embedDecimal (digits : String) : Form :=
  match Decimal.ofText digits with
  | .ok d => if d.text = digits then .literal (.decimal d) else .big digits
  | .error _ => .big digits

mutual

/-- Embeds the decimals of a form. -/
def Form.embed : Form → Form
  | .big digits => embedDecimal digits
  | .list items => .list (Form.embedAll items)
  | .vector items => .vector (Form.embedAll items)
  | .table items => .table (Form.embedAll items)
  | .literal v => .literal v.embed
  | .number x => .number x
  | .text s => .text s
  | .boolean b => .boolean b
  | .keyword name => .keyword name
  | .symbol name => .symbol name

/-- Embeds the decimals of several forms. -/
def Form.embedAll : List Form → List Form
  | [] => []
  | f :: rest => f.embed :: Form.embedAll rest

/-- Embeds the decimals in the code of a closure. -/
def Closure.embed : Closure → Closure
  | ⟨identity, name, params, rest, body, scope⟩ =>
      ⟨identity, name, params, rest, Form.embedAll body, scope⟩

/-- Embeds the decimals in the code that a value holds. -/
def Value.embed : Value → Value
  | .list items => .list (Value.embedAll items)
  | .vector items => .vector (Value.embedAll items)
  | .map entries => .map (Value.embedEntries entries)
  | .function c => .function c.embed
  | .transformer c => .transformer c.embed
  | .partialCall f bound => .partialCall f.embed (Value.embedAll bound)
  | .complement f => .complement f.embed
  | .juxt fs => .juxt (Value.embedAll fs)
  | .comp fs => .comp (Value.embedAll fs)
  | .pending c args => .pending c.embed (Value.embedAll args)
  | .nil => .nil
  | .boolean b => .boolean b
  | .number x => .number x
  | .decimal d => .decimal d
  | .text s => .text s
  | .keyword name => .keyword name
  | .symbol name => .symbol name
  | .builtin name => .builtin name
  | .operator name => .operator name
  | .atom index => .atom index
  | .channel index => .channel index
  | .future index => .future index
  | .waitGroup index => .waitGroup index

/-- Embeds the decimals in the code that values hold. -/
def Value.embedAll : List Value → List Value
  | [] => []
  | v :: rest => v.embed :: Value.embedAll rest

/-- Embeds the decimals in the code that entries hold. -/
def Value.embedEntries : List (String × Value) → List (String × Value)
  | [] => []
  | (key, v) :: rest => (key, v.embed) :: Value.embedEntries rest

end

/-- The embedding of forms in a list is that of each. -/
@[simp] theorem Form.embedAll_eq_map (forms : List Form) :
    Form.embedAll forms = forms.map Form.embed := by
  induction forms with
  | nil => rfl
  | cons f rest ih => rw [Form.embedAll, ih, List.map_cons]

/-- The embedding of values in a list is that of each. -/
@[simp] theorem Value.embedAll_eq_map (values : List Value) :
    Value.embedAll values = values.map Value.embed := by
  induction values with
  | nil => rfl
  | cons v rest ih => rw [Value.embedAll, ih, List.map_cons]

/-- The embedding of entries changes their values only. -/
@[simp] theorem Value.embedEntries_eq_mapValues (entries : List (String × Value)) :
    Value.embedEntries entries = Assoc.mapValues Value.embed entries := by
  induction entries with
  | nil => rfl
  | cons entry rest ih =>
      obtain ⟨key, v⟩ := entry
      rw [Value.embedEntries, ih, Assoc.mapValues_cons]

attribute [simp] Form.embed Value.embed

/-- The embedding of a closure changes its body only. -/
theorem Closure.embed_eq (c : Closure) : c.embed = { c with body := c.body.map Form.embed } := by
  obtain ⟨identity, name, params, rest, body, scope⟩ := c
  rw [Closure.embed, Form.embedAll_eq_map]

section

variable (c : Closure)

@[simp] theorem Closure.params_embed : c.embed.params = c.params := by rw [Closure.embed_eq]

@[simp] theorem Closure.body_embed : c.embed.body = c.body.map Form.embed := by
  rw [Closure.embed_eq]

@[simp] theorem Closure.scope_embed : c.embed.scope = c.scope := by rw [Closure.embed_eq]

@[simp] theorem Closure.rest_embed : c.embed.rest = c.rest := by rw [Closure.embed_eq]

@[simp] theorem Closure.displayName_embed : c.embed.displayName = c.displayName := by
  rw [Closure.embed_eq]
  rfl

/-- The parameters of a closure, and so its arity, stay as they are. -/
@[simp] theorem Closure.arityText_embed : c.embed.arityText = c.arityText := by
  rw [Closure.embed_eq]
  rfl

@[simp] theorem Closure.accepts_embed (count : Nat) : c.embed.accepts count = c.accepts count := by
  rw [Closure.embed_eq]
  rfl

end

/-- What a decimal literal is after embedding. -/
theorem embedDecimal_cases (digits : String) :
    embedDecimal digits = .big digits ∨
      ∃ d, Decimal.ofText digits = .ok d ∧ d.text = digits ∧
        embedDecimal digits = .literal (.decimal d) := by
  unfold embedDecimal
  split
  next d read =>
    split
    next printed => exact Or.inr ⟨d, read, printed, rfl⟩
    next => exact Or.inl rfl
  next => exact Or.inl rfl

section

variable (digits : String)

/-- An embedded decimal is none of the forms that constructs take apart. -/
@[simp] theorem embedDecimal_ne_list (items : List Form) : embedDecimal digits ≠ .list items := by
  rcases embedDecimal_cases digits with same | ⟨d, -, -, same⟩ <;> simp [same]

@[simp] theorem embedDecimal_ne_vector (items : List Form) :
    embedDecimal digits ≠ .vector items := by
  rcases embedDecimal_cases digits with same | ⟨d, -, -, same⟩ <;> simp [same]

@[simp] theorem embedDecimal_ne_symbol (name : String) : embedDecimal digits ≠ .symbol name := by
  rcases embedDecimal_cases digits with same | ⟨d, -, -, same⟩ <;> simp [same]

@[simp] theorem embedDecimal_ne_text (s : String) : embedDecimal digits ≠ .text s := by
  rcases embedDecimal_cases digits with same | ⟨d, -, -, same⟩ <;> simp [same]

@[simp] theorem embedDecimal_ne_keyword (name : String) : embedDecimal digits ≠ .keyword name := by
  rcases embedDecimal_cases digits with same | ⟨d, -, -, same⟩ <;> simp [same]

end

mutual

/-- Embedding once is enough. -/
@[simp] theorem Form.embed_embed : ∀ f : Form, f.embed.embed = f.embed
  | .big digits => by
      rw [Form.embed]
      rcases embedDecimal_cases digits with same | ⟨d, -, -, same⟩
      · rw [same, Form.embed, same]
      · rw [same, Form.embed, Value.embed]
  | .list items => by simpa using Form.embedAll_embedAll items
  | .vector items => by simpa using Form.embedAll_embedAll items
  | .table items => by simpa using Form.embedAll_embedAll items
  | .literal v => by simpa using Value.embed_embed v
  | .number _ | .text _ | .boolean _ | .keyword _ | .symbol _ => rfl

theorem Form.embedAll_embedAll : ∀ forms : List Form,
    Form.embedAll (Form.embedAll forms) = Form.embedAll forms
  | [] => rfl
  | f :: rest => by
      rw [Form.embedAll, Form.embedAll, Form.embed_embed f, Form.embedAll_embedAll rest]

/-- Embedding a closure twice is embedding it once. -/
@[simp] theorem Closure.embed_embed : ∀ c : Closure, c.embed.embed = c.embed
  | ⟨identity, name, params, rest, body, scope⟩ => by
      rw [Closure.embed, Closure.embed, Form.embedAll_embedAll body]

/-- Embedding a value twice is embedding it once. -/
@[simp] theorem Value.embed_embed : ∀ v : Value, v.embed.embed = v.embed
  | .list items => by simpa using Value.embedAll_embedAll items
  | .vector items => by simpa using Value.embedAll_embedAll items
  | .map entries => by simpa using Value.embedEntries_embedEntries entries
  | .function c => by rw [Value.embed, Value.embed, Closure.embed_embed c]
  | .transformer c => by rw [Value.embed, Value.embed, Closure.embed_embed c]
  | .partialCall f bound => by
      rw [Value.embed, Value.embed, Value.embed_embed f, Value.embedAll_embedAll bound]
  | .complement f => by rw [Value.embed, Value.embed, Value.embed_embed f]
  | .juxt fs => by rw [Value.embed, Value.embed, Value.embedAll_embedAll fs]
  | .comp fs => by rw [Value.embed, Value.embed, Value.embedAll_embedAll fs]
  | .pending c args => by
      rw [Value.embed, Value.embed, Closure.embed_embed c, Value.embedAll_embedAll args]
  | .nil | .boolean _ | .number _ | .decimal _ | .text _ | .keyword _ | .symbol _ | .builtin _
  | .operator _ | .atom _ | .channel _ | .future _ | .waitGroup _ => rfl

theorem Value.embedAll_embedAll : ∀ values : List Value,
    Value.embedAll (Value.embedAll values) = Value.embedAll values
  | [] => rfl
  | v :: rest => by
      rw [Value.embedAll, Value.embedAll, Value.embed_embed v, Value.embedAll_embedAll rest]

theorem Value.embedEntries_embedEntries : ∀ entries : List (String × Value),
    Value.embedEntries (Value.embedEntries entries) = Value.embedEntries entries
  | [] => rfl
  | (key, v) :: rest => by
      rw [Value.embedEntries, Value.embedEntries, Value.embed_embed v,
        Value.embedEntries_embedEntries rest]

end

@[simp] theorem Form.embed_comp_embed : Form.embed ∘ Form.embed = Form.embed :=
  funext Form.embed_embed

@[simp] theorem Value.embed_comp_embed : Value.embed ∘ Value.embed = Value.embed :=
  funext Value.embed_embed

/-- Only `nil` is embedded as `nil`. -/
theorem Value.embed_eq_nil {v : Value} (same : v.embed = .nil) : v = .nil := by
  cases v with
  | nil => rfl
  | _ => cases same

/-- Only a truth value is embedded as one. -/
theorem Value.embed_eq_boolean {v : Value} {b : Bool} (same : v.embed = .boolean b) :
    v = .boolean b := by
  cases v with
  | boolean b' => exact same
  | _ => cases same

/-- Only a macro embeds to a macro. -/
theorem Value.embed_eq_transformer {v : Value} {c : Closure} (same : v.embed = .transformer c) :
    ∃ d, v = .transformer d ∧ d.embed = c := by
  cases v with
  | transformer d => exact ⟨d, rfl, Value.transformer.inj same⟩
  | _ => cases same

/-! ### What can be seen -/

mutual

/-- A value is printed readably as its embedding is. -/
@[simp] theorem Value.show_embed (cells : Cells) : ∀ v : Value, v.embed.show cells = v.show cells
  | .list items => by rw [Value.embed, Value.show, Value.show, Value.showAll_embed cells items]
  | .vector items => by rw [Value.embed, Value.show, Value.show, Value.showAll_embed cells items]
  | .map entries => by rw [Value.embed, Value.show, Value.show, Value.showEntries_embed cells entries]
  | .partialCall f bound => by
      rw [Value.embed, Value.show, Value.show, Value.show_embed cells f]
      simp
  | .complement f => by rw [Value.embed, Value.show, Value.show, Value.show_embed cells f]
  | .juxt fs => by simp [Value.show]
  | .comp fs => by simp [Value.show]
  | .function c | .transformer c | .pending c _ => by
      rw [Value.embed, Closure.embed_eq]
      rfl
  | .nil | .boolean _ | .number _ | .decimal _ | .text _ | .keyword _ | .symbol _ | .builtin _
  | .operator _ | .atom _ | .channel _ | .future _ | .waitGroup _ => rfl

theorem Value.showAll_embed (cells : Cells) : ∀ values : List Value,
    Value.showAll cells (Value.embedAll values) = Value.showAll cells values
  | [] => rfl
  | v :: rest => by
      rw [Value.embedAll, Value.showAll, Value.showAll, Value.show_embed cells v,
        Value.showAll_embed cells rest]

theorem Value.showEntries_embed (cells : Cells) : ∀ entries : List (String × Value),
    Value.showEntries cells (Value.embedEntries entries) = Value.showEntries cells entries
  | [] => rfl
  | (key, v) :: rest => by
      rw [Value.embedEntries, Value.showEntries, Value.showEntries, Value.show_embed cells v,
        Value.showEntries_embed cells rest]

end

/-- A value is displayed as its embedding is. -/
@[simp] theorem Value.display_embed (cells : Cells) (v : Value) :
    v.embed.display cells = v.display cells := by
  cases v with
  | text s => rfl
  | nil => rfl
  | _ => exact Value.show_embed cells _

/-- Alike values are printed alike. -/
theorem Value.map_show_embed (cells : Cells) {values values' : List Value}
    (same : values.map Value.embed = values'.map Value.embed) :
    values.map (Value.show cells) = values'.map (Value.show cells) := by
  have shown := congrArg (List.map (Value.show cells)) same
  simpa [Function.comp_def] using shown

/-- Values with the same embedding are shown alike. -/
theorem Value.map_display_embed (cells : Cells) {values values' : List Value}
    (same : values.map Value.embed = values'.map Value.embed) :
    values.map (Value.display cells) = values'.map (Value.display cells) := by
  have shown := congrArg (List.map (Value.display cells)) same
  simpa [Function.comp_def] using shown

mutual

/-- A form is printed as its embedding is: the digits of a decimal are its text. -/
@[simp] theorem Form.show_embed (cells : Cells) : ∀ f : Form, f.embed.show cells = f.show cells
  | .big digits => by
      rw [Form.embed]
      rcases embedDecimal_cases digits with same | ⟨d, -, printed, same⟩
      · rw [same]
      · rw [same, Form.show, Form.show, ← printed]
        rfl
  | .list items => by rw [Form.embed, Form.show, Form.show, Form.showAll_embed cells items]
  | .vector items => by rw [Form.embed, Form.show, Form.show, Form.showAll_embed cells items]
  | .table items => by rw [Form.embed, Form.show, Form.show, Form.showAll_embed cells items]
  | .literal v => by rw [Form.embed, Form.show, Form.show, Value.show_embed cells v]
  | .number _ | .text _ | .boolean _ | .keyword _ | .symbol _ => rfl

theorem Form.showAll_embed (cells : Cells) : ∀ forms : List Form,
    Form.showAll cells (Form.embedAll forms) = Form.showAll cells forms
  | [] => rfl
  | f :: rest => by
      rw [Form.embedAll, Form.showAll, Form.showAll, Form.show_embed cells f,
        Form.showAll_embed cells rest]

end

@[simp] theorem Value.typeName_embed (v : Value) : v.embed.typeName = v.typeName := by
  cases v <;> rfl

@[simp] theorem Value.isTruthy_embed (v : Value) : v.embed.isTruthy = v.isTruthy := by
  cases v <;> rfl

@[simp] theorem Value.isCallable_embed (v : Value) : v.embed.isCallable = v.isCallable := by
  cases v <;> rfl

@[simp] theorem Form.kindName_embed (f : Form) : f.embed.kindName = f.kindName := by
  cases f with
  | big digits =>
      rw [Form.embed]
      rcases embedDecimal_cases digits with same | ⟨d, -, -, same⟩
      · rw [same]
      · rw [same]
        rfl
  | literal v => exact Value.typeName_embed v
  | _ => rfl

@[simp] theorem Form.symbol?_embed (f : Form) : f.embed.symbol? = f.symbol? := by
  cases f with
  | big digits =>
      rw [Form.embed]
      rcases embedDecimal_cases digits with same | ⟨d, -, -, same⟩
      · rw [same]
      · rw [same]
        rfl
  | _ => rfl

/-! ### Views -/

@[simp] theorem Value.asNumber_embed (v : Value) : v.embed.asNumber = v.asNumber := by
  cases v <;> rfl

@[simp] theorem Value.asInt_embed (v : Value) : v.embed.asInt = v.asInt := by
  cases v <;> rfl

@[simp] theorem Value.asText_embed (v : Value) : v.embed.asText = v.asText := by
  cases v <;> rfl

@[simp] theorem Value.asKey_embed (v : Value) : v.embed.asKey = v.asKey := by
  cases v <;> rfl

/-- The elements of the embedding are the embedded elements. -/
@[simp] theorem Value.asSeq_embed (v : Value) :
    v.embed.asSeq = v.asSeq.map (List.map Value.embed) := by
  cases v <;> simp [Value.asSeq, Except.map, Value.typeName]

/-- Values with the same embedding have the same elements up to embedding. -/
theorem Value.asSeq_same {v w : Value} (same : v.embed = w.embed) :
    v.asSeq.map (List.map Value.embed) = w.asSeq.map (List.map Value.embed) := by
  rw [← Value.asSeq_embed, ← Value.asSeq_embed, same]

/-- The entries of the embedding are the embedded entries. -/
@[simp] theorem Value.asMap_embed (v : Value) :
    v.embed.asMap = v.asMap.map (Assoc.mapValues Value.embed) := by
  cases v <;> simp [Value.asMap, Except.map, Value.typeName]

/-- The embedding of a function is a function. -/
@[simp] theorem Value.asCallable_embed (form : String) (v : Value) :
    v.embed.asCallable form = (v.asCallable form).map Value.embed := by
  rw [Value.asCallable, Value.asCallable, Value.isCallable_embed, Value.typeName_embed]
  split <;> rfl

/-- Alike values are accepted as a function alike. -/
theorem Value.asCallable_same (form : String) {v w : Value} (same : v.embed = w.embed) :
    (v.asCallable form).map Value.embed = (w.asCallable form).map Value.embed := by
  rw [← Value.asCallable_embed, ← Value.asCallable_embed, same]

/-! ### Comparison -/

mutual

/-- Values are equal as their embeddings are: functions are equal by identity. -/
@[simp] theorem Value.equal_embed (a b : Value) : a.embed.equal b.embed = a.equal b := by
  cases a with
  | list xs => cases b with
      | list ys | vector ys => exact Value.equalAll_embed xs ys
      | _ => rfl
  | vector xs => cases b with
      | list ys | vector ys => exact Value.equalAll_embed xs ys
      | _ => rfl
  | map xs => cases b with
      | map ys =>
          have sizes : ((Value.embedEntries xs).length == (Value.embedEntries ys).length) =
              (xs.length == ys.length) := by simp
          change ((Value.embedEntries xs).length == (Value.embedEntries ys).length &&
            Value.equalEntries (Value.embedEntries xs) (Value.embedEntries ys)) =
              (xs.length == ys.length && Value.equalEntries xs ys)
          rw [sizes, Value.equalEntries_embed xs ys]
      | _ => rfl
  | function x => cases b with
      | function y =>
          rw [Value.embed, Value.embed, Closure.embed_eq, Closure.embed_eq]
          rfl
      | _ => rfl
  | transformer x => cases b with
      | transformer y =>
          rw [Value.embed, Value.embed, Closure.embed_eq, Closure.embed_eq]
          rfl
      | _ => rfl
  | _ => cases b <;> rfl

theorem Value.equalAll_embed : ∀ xs ys : List Value,
    Value.equalAll (Value.embedAll xs) (Value.embedAll ys) = Value.equalAll xs ys
  | [], [] => rfl
  | x :: xs, y :: ys => by
      rw [Value.embedAll, Value.embedAll, Value.equalAll, Value.equalAll, Value.equal_embed x y,
        Value.equalAll_embed xs ys]
  | [], _ :: _ => rfl
  | _ :: _, [] => rfl

theorem Value.equalEntries_embed : ∀ xs ys : List (String × Value),
    Value.equalEntries (Value.embedEntries xs) (Value.embedEntries ys) = Value.equalEntries xs ys
  | [], _ => rfl
  | (key, x) :: xs, ys => by
      rw [Value.embedEntries, Value.equalEntries, Value.equalEntries, Value.equalEntries_embed xs ys,
        Value.embedEntries_eq_mapValues, Assoc.get?_mapValues]
      cases Assoc.get? key ys with
      | none => rfl
      | some y => simp only [Option.map_some, Value.equal_embed x y]

end

/-- Values are compared as their embeddings are. -/
@[simp] theorem Value.compare_embed (a b : Value) : a.embed.compare b.embed = a.compare b := by
  cases a <;> cases b <;> rfl

/-! ### Code as data and data as code -/

mutual

/-- The data that a form stands for is embedded with it. -/
@[simp] theorem Form.quote_embed : ∀ f : Form, f.embed.quote = f.quote.map Value.embed
  | .big digits => by
      rw [Form.embed]
      rcases embedDecimal_cases digits with same | ⟨d, read, -, same⟩
      · rw [same, Form.quote]
        cases readDecimal digits <;> rfl
      · rw [same, Form.quote, Form.quote, readDecimal, read]
        rfl
  | .list items => by
      rw [Form.embed, Form.quote, Form.quote, Form.quoteAll_embed items]
      cases Form.quoteAll items <;> rfl
  | .vector items => by
      rw [Form.embed, Form.quote, Form.quote, Form.quoteAll_embed items]
      cases Form.quoteAll items <;> rfl
  | .table items => by
      have pairs := Form.quotePairs_embed [] items
      rw [Value.embedEntries] at pairs
      rw [Form.embed, Form.quote, Form.quote, pairs]
      cases Form.quotePairs [] items <;> rfl
  | .symbol name => by
      rw [Form.embed, Form.quote, Except.map]
      split <;> rfl
  | .literal _ | .number _ | .text _ | .boolean _ | .keyword _ => rfl

theorem Form.quoteAll_embed : ∀ forms : List Form,
    Form.quoteAll (Form.embedAll forms) = (Form.quoteAll forms).map Value.embedAll
  | [] => rfl
  | f :: rest => by
      rw [Form.embedAll, Form.quoteAll, Form.quoteAll, Form.quote_embed f, Form.quoteAll_embed rest]
      cases f.quote with
      | error e => rfl
      | ok v => cases Form.quoteAll rest <;> rfl

theorem Form.quotePairs_embed : ∀ (entries : Assoc Value) (items : List Form),
    Form.quotePairs (Value.embedEntries entries) (Form.embedAll items) =
      (Form.quotePairs entries items).map Value.embedEntries
  | entries, [] => rfl
  | entries, [f] => rfl
  | entries, key :: value :: rest => by
      rw [Form.embedAll, Form.embedAll, Form.quotePairs, Form.quotePairs, Form.quote_embed key,
        Form.quote_embed value]
      cases key.quote with
      | error e => rfl
      | ok k =>
          simp only [Except.map, bind, Except.bind, Value.asKey_embed]
          cases k.asKey with
          | error e => rfl
          | ok name =>
              cases value.quote with
              | error e => rfl
              | ok v =>
                  have put : Assoc.put name v.embed (Value.embedEntries entries) =
                      Value.embedEntries (Assoc.put name v entries) := by simp
                  simp only [put]
                  exact Form.quotePairs_embed (entries.put name v) rest

end

/-- Forms with the same embedding are the same data up to embedding. -/
theorem Form.quote_same {f g : Form} (same : f.embed = g.embed) :
    f.quote.map Value.embed = g.quote.map Value.embed := by
  rw [← Form.quote_embed, ← Form.quote_embed, same]

/-- Several forms with the same embedding are the same data up to embedding. -/
theorem Form.quoteAll_same {forms forms' : List Form}
    (same : forms.map Form.embed = forms'.map Form.embed) :
    (Form.quoteAll forms).map (List.map Value.embed) =
      (Form.quoteAll forms').map (List.map Value.embed) := by
  have quoted (forms : List Form) : (Form.quoteAll forms).map (List.map Value.embed) =
      Form.quoteAll (forms.map Form.embed) := by
    rw [← Form.embedAll_eq_map, Form.quoteAll_embed, funext Value.embedAll_eq_map]
  rw [quoted, quoted, same]

mutual

/-- The code that stands for a value is embedded with it. -/
@[simp] theorem Value.toCode_embed : ∀ v : Value, v.embed.toCode = v.toCode.embed
  | .list items => by
      rw [Value.embed, Value.toCode, Value.toCode, Form.embed, Value.toCodeAll_embed items]
  | .vector items => by
      rw [Value.embed, Value.toCode, Value.toCode, Form.embed, Value.toCodeAll_embed items]
  | .map entries => by
      rw [Value.embed, Value.toCode, Value.toCode, Form.embed, Value.toCodeEntries_embed entries]
  | .function _ | .transformer _ | .pending _ _ | .partialCall _ _ | .complement _ | .juxt _ | .comp _
  | .nil | .boolean _ | .number _ | .decimal _ | .text _ | .keyword _ | .symbol _ | .builtin _
  | .operator _ | .atom _ | .channel _ | .future _ | .waitGroup _ => rfl

theorem Value.toCodeAll_embed : ∀ values : List Value,
    Value.toCodeAll (Value.embedAll values) = Form.embedAll (Value.toCodeAll values)
  | [] => rfl
  | v :: rest => by
      rw [Value.embedAll, Value.toCodeAll, Value.toCodeAll, Form.embedAll, Value.toCode_embed v,
        Value.toCodeAll_embed rest]

theorem Value.toCodeEntries_embed : ∀ entries : List (String × Value),
    Value.toCodeEntries (Value.embedEntries entries) = Form.embedAll (Value.toCodeEntries entries)
  | [] => rfl
  | (key, v) :: rest => by
      rw [Value.embedEntries, Value.toCodeEntries, Value.toCodeEntries, Form.embedAll, Form.embedAll,
        Form.embed, Value.toCode_embed v, Value.toCodeEntries_embed rest]

end

end PluginLisp
