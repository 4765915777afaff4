import FilterQuery.Filter.Display
import FilterQuery.Search

/-! # Queries in words

A query as two lines of text: the filter, and the sort terms between commas.
-/

namespace FilterQuery.Query

/-- A query as two lines of text. -/
def display (q : Query) : String :=
  "filter: " ++ q.filter.display ++ "\norder: " ++ ",".intercalate (q.order.map SortTerm.display)

end FilterQuery.Query
