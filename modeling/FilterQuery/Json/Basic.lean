import FilterQuery.Json.Number
import FilterQuery.Table

/-! # Documents

The values that a configuration document is made of, whatever it was written in: null, booleans,
numbers, texts, lists, and objects, whose members keep the order in which they were written.
-/

namespace FilterQuery

/-- A value of a document. -/
inductive Json where
  | null
  | bool (value : Bool)
  | number (value : Number)
  | string (text : String)
  | array (items : List Json)
  | object (members : List (String × Json))

end FilterQuery
