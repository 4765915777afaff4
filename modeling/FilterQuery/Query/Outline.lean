import FilterQuery.Outline
import FilterQuery.Search

/-! # Queries as outlines

The form in which a query is written to documents: every node of a filter is a variant named after
its kind, a value is a text or a list of texts, and comparators and directions go by their names.
-/

namespace FilterQuery

/-- A value is a text or a list of texts. -/
def Value.outline : Value → Outline
  | .single text => .text text
  | .list items => .list (items.map .text)

/-- A comparison is a record of its three parts. -/
def Comparison.outline (c : Comparison) : Outline :=
  .record [("field", .text c.field), ("op", .text c.comparator.tag), ("value", c.value.outline)]

namespace Filter

mutual

/-- A node is a variant named after its kind. -/
def outline : Filter → Outline
  | .compare c => .variant "comparison" c.outline
  | .all fs => .variant "and" (.list (outlines fs))
  | .any fs => .variant "or" (.list (outlines fs))
  | .not f => .variant "not" (outline f)

/-- The outlines of several nodes. -/
def outlines : List Filter → List Outline
  | [] => []
  | f :: fs => outline f :: outlines fs

end

end Filter

/-- A sort term is a record of its two parts. -/
def SortTerm.outline (t : SortTerm) : Outline :=
  .record [("field", .text t.field), ("dir", .text t.direction.tag)]

/-- The two parts of a query. -/
def Query.members (q : Query) : List (String × Outline) :=
  [("filter", q.filter.outline), ("order", .list (q.order.map SortTerm.outline))]

/-- A query is a record of its filter and its order. -/
def Query.outline (q : Query) : Outline :=
  .record q.members

/-- A query as a document. -/
def Query.toJson (q : Query) : Json :=
  q.outline.toJson

end FilterQuery
