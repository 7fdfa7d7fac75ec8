import PluginLisp.Value.View

/-!
Code as data and data as code. `Form.quote` is what quoting and macros see; `Value.toCode` turns a
macro's answer back into code.
-/

namespace PluginLisp

/-- Reads the text of a decimal literal. -/
def readDecimal (digits : String) : Except Error Decimal := Decimal.ofText digits

mutual

/-- Code as data: symbols stay symbols, except that `nil` is the value of that name. -/
def Form.quote : Form → Except Error Value
  | .number x => .ok (.number x)
  | .big digits => (readDecimal digits).map .decimal
  | .text s => .ok (.text s)
  | .boolean b => .ok (.boolean b)
  | .keyword name => .ok (.keyword name)
  | .symbol name => .ok (if name = "nil" then .nil else .symbol name)
  | .list items => (Form.quoteAll items).map .list
  | .vector items => (Form.quoteAll items).map .vector
  | .table items => (Form.quotePairs [] items).map .map
  | .literal v => .ok v

/-- Several forms as data. -/
def Form.quoteAll : List Form → Except Error (List Value)
  | [] => .ok []
  | f :: rest => do
      let v ← f.quote
      let vs ← Form.quoteAll rest
      return v :: vs

/-- The keys and values of a map literal as the entries of a map; a key without a value is left
    out. -/
def Form.quotePairs (entries : Assoc Value) : List Form → Except Error (Assoc Value)
  | key :: value :: rest => do
      let k ← (← key.quote).asKey
      let v ← value.quote
      Form.quotePairs (entries.put k v) rest
  | _ => .ok entries

end

mutual

/-- Data as code: what has no literal form is embedded as it is. -/
def Value.toCode : Value → Form
  | .number x => .number x
  | .text s => .text s
  | .boolean b => .boolean b
  | .keyword name => .keyword name
  | .symbol name => .symbol name
  | .list items => .list (Value.toCodeAll items)
  | .vector items => .vector (Value.toCodeAll items)
  | .map entries => .table (Value.toCodeEntries entries)
  | v => .literal v

/-- Several values as code. -/
def Value.toCodeAll : List Value → List Form
  | [] => []
  | v :: rest => v.toCode :: Value.toCodeAll rest

/-- The entries of a map as the items of a map literal, with keywords for keys. -/
def Value.toCodeEntries : List (String × Value) → List Form
  | [] => []
  | (key, v) :: rest => .keyword key :: v.toCode :: Value.toCodeEntries rest

end

end PluginLisp
