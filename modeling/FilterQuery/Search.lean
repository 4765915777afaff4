import FilterQuery.Filter.Basic
import FilterQuery.Order

/-! # Searches

A request carries an optional filter string and an optional sort string. A configuration turns it
into a query: the filter tree that a store evaluates and the order in which it answers.

* `exactComparisons_some`, `mem_exactComparisons_iff`   the conditions that a configured filter makes
-/

namespace FilterQuery

/-- What a client asks for. An absent string differs from an empty one. -/
structure Request where
  filter : Option String
  sort : Option String
  deriving DecidableEq

/-- What a store is asked. -/
structure Query where
  filter : Filter
  order : List SortTerm
  deriving DecidableEq

/-- The comparisons that each field has its value, in the order of the filter's entries. -/
def exactComparisons (filter : Option FilterMap) : List Filter :=
  match filter with
  | none => []
  | some m => m.entries.map fun (field, value) => .compare ⟨field, .exact, .single value⟩

/-- Without a filter there is nothing to compare. -/
@[simp] theorem exactComparisons_none : exactComparisons none = [] := rfl

/-- A filter has a comparison for each of its entries, in their order, and no other. -/
@[simp] theorem exactComparisons_some (m : FilterMap) :
    exactComparisons (some m) = m.entries.map fun e => .compare ⟨e.1, .exact, .single e.2⟩ := rfl

/-- The comparisons of a filter, by what the filter says about each field. -/
theorem mem_exactComparisons_iff {filter : Option FilterMap} {f : Filter} :
    f ∈ exactComparisons filter ↔
      ∃ m, filter = some m ∧ ∃ field value, m.get? field = some value ∧
        f = .compare ⟨field, .exact, .single value⟩ := by
  cases filter with
  | none => simp
  | some m =>
    simp only [exactComparisons_some, List.mem_map, Prod.exists, Option.some.injEq, exists_eq_left',
      Table.get?_eq_some_iff, @eq_comm _ f]

/-- The same comparison on each of several fields; one of them is enough. -/
def spread (fields : List String) (leaf : String → Filter) : Filter :=
  match fields with
  | [field] => leaf field
  | fields => .any (fields.map leaf)

namespace Config

/-- The node of a clause, unless its key stands for nothing. -/
def node? (c : Config) (clause : Clause) : Option Filter :=
  (c.mapping.get? clause.key).map fun fields =>
    let comparator := clause.operator.comparator c.caseSensitive
    -- The negation goes around the whole node, not around each comparison.
    let positive := spread fields fun field => .compare ⟨field, comparator, clause.value⟩
    if clause.operator = .notIn then .not positive else positive

/-- The filter of the clauses of a request, or of a request without a filter string. -/
def filterOfClauses (c : Config) (clauses : Option (List Clause)) : Filter :=
  let root := Filter.all (exactComparisons c.forcedFilter)
  match clauses with
  | none => root.and (.all (exactComparisons c.defaultFilter))
  | some clauses => (clauses.filterMap c.node?).foldl Filter.and root

/-- The filter of a filter string. -/
def filter (c : Config) (raw : Option String) : Filter :=
  c.filterOfClauses (raw.map c.grammar.tokenize)

/-- The query of a request. Only the sort string can make it fail. -/
def search (c : Config) (request : Request) : Except SortError Query := do
  let order ← c.order request.sort
  return ⟨c.filter request.filter, order⟩

end Config

end FilterQuery
