/-!
JSON documents.
-/

namespace PluginLisp

/-- A JSON document. Numbers are integers or floats; the members of an object are sorted by name. -/
inductive Json where
  | null
  | boolean (b : Bool)
  | integer (n : Int)
  | float (x : Float)
  | text (s : String)
  | array (items : List Json)
  | object (members : List (String × Json))
deriving Inhabited

end PluginLisp
