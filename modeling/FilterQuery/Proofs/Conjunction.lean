import FilterQuery.Filter.Truth

/-!
# Joining filters

`Filter.and` drops an empty conjunction on either side and splices the conjunctions that it is given,
one level deep, so what it makes depends on the shape of both sides. On trees as they stand, of any
nesting, it is a monoid nevertheless, and it neither changes what its two sides mean nor moves or loses
a comparison.

All of this follows from what becomes of the conjuncts, `Filter.conjuncts_and`: whatever is computed
from the conjuncts of a filter by appending is computed alike for a join.

## Key results

- `comparisonsOf_conjuncts`: the comparisons of a filter stand in its conjuncts
- `comparisons_and`: the comparisons of a join are those of its two sides
- `and_monoid_keeps_meaning_and_comparisons`: the laws of joins in one statement
-/

namespace FilterQuery.Filter

private theorem comparisonsOf_append (fs gs : List Filter) :
    comparisonsOf (fs ++ gs) = comparisonsOf fs ++ comparisonsOf gs := by
  simp only [comparisonsOf_eq_flatMap, List.flatMap_append]

/-- The comparisons of a filter stand in its conjuncts. -/
theorem comparisonsOf_conjuncts (f : Filter) : comparisonsOf f.conjuncts = f.comparisons := by
  -- A conjunction is taken apart, any other filter is its own only conjunct.
  unfold conjuncts
  split
  · rw [comparisons]
  · simp only [comparisonsOf, List.append_nil]

/-- The comparisons of a join are those of its two sides, from left to right. -/
theorem comparisons_and (a b : Filter) :
    (a.and b).comparisons = a.comparisons ++ b.comparisons := by
  calc (a.and b).comparisons
      = comparisonsOf (a.and b).conjuncts := (comparisonsOf_conjuncts _).symm
    _ = comparisonsOf (a.conjuncts ++ b.conjuncts) := by rw [conjuncts_and]
    _ = comparisonsOf a.conjuncts ++ comparisonsOf b.conjuncts := comparisonsOf_append _ _
    _ = a.comparisons ++ b.comparisons := by
      rw [comparisonsOf_conjuncts, comparisonsOf_conjuncts]

/-- Joining is associative and has the filter that keeps everything as its unit on both sides, down to
    the shape of the tree; a join holds when both sides do; and its comparisons are those of the left
    side followed by those of the right. -/
theorem and_monoid_keeps_meaning_and_comparisons (a b c : Filter) :
    (a.and b).and c = a.and (b.and c) ∧
      (everything.and a = a ∧ a.and everything = a) ∧
      (∀ truth : Comparison → Bool,
        (a.and b).holds truth = true ↔ a.holds truth = true ∧ b.holds truth = true) ∧
      (a.and b).comparisons = a.comparisons ++ b.comparisons := by
  refine ⟨and_assoc a b c, ⟨everything_and a, and_everything a⟩, fun truth => ?_,
    comparisons_and a b⟩
  rw [holds_and, Bool.and_eq_true]

/-- A conjunction with one member is no unit: it is spliced next to another filter, and stands as it is
    next to the empty conjunction. What stands below the root is not touched. -/
example (x y : Comparison) :
    (Filter.all [.all [.compare x]]).and (.compare y) = .all [.all [.compare x], .compare y] ∧
      (Filter.all [.compare x]).and everything = .all [.compare x] :=
  ⟨rfl, rfl⟩

end FilterQuery.Filter
