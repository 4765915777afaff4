import FilterQuery.Query.Outline

/-! # Queries from documents

Reading back the documents that queries are written to: nodes by the name of their kind, values by
whether they are a text or a list, comparators and directions by their names.
-/

namespace FilterQuery

/-- The text of a document that is one. -/
def Json.text? : Json → Option String
  | .string s => some s
  | _ => none

/-- The value that a document stands for. -/
def Value.ofJson? : Json → Option Value
  | .string s => some (.single s)
  | .array items => (items.mapM Json.text?).map .list
  | _ => none

/-- The comparison that a document stands for. -/
def Comparison.ofJson? : Json → Option Comparison
  | .object [("field", .string field), ("op", .string op), ("value", v)] => do
    let comparator ← Comparator.ofTag? op
    let value ← Value.ofJson? v
    some ⟨field, comparator, value⟩
  | _ => none

namespace Filter

mutual

/-- The filter that a document stands for. -/
def ofJson? : Json → Option Filter
  | .object [(tag, v)] =>
    if tag = "comparison" then (Comparison.ofJson? v).map .compare
    else if tag = "not" then (ofJson? v).map .not
    else
      match v with
      | .array items =>
        if tag = "and" then (listOfJson? items).map .all
        else if tag = "or" then (listOfJson? items).map .any
        else none
      | _ => none
  | _ => none

/-- The filters that a list of documents stands for. -/
def listOfJson? : List Json → Option (List Filter)
  | [] => some []
  | v :: vs => do
    let f ← ofJson? v
    let fs ← listOfJson? vs
    some (f :: fs)

end

end Filter

/-- The sort term that a document stands for. -/
def SortTerm.ofJson? : Json → Option SortTerm
  | .object [("field", .string field), ("dir", .string dir)] => do
    let direction ← Direction.ofTag? dir
    some ⟨field, direction⟩
  | _ => none

/-- The query that a document stands for. -/
def Query.ofJson? : Json → Option Query
  | .object [("filter", f), ("order", .array terms)] => do
    let filter ← Filter.ofJson? f
    let order ← terms.mapM SortTerm.ofJson?
    some ⟨filter, order⟩
  | _ => none

end FilterQuery
