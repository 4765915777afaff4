import FilterQuery.Filter.Basic

/-! # The meaning of filter trees

Given which comparisons hold, a filter tree holds or not: a conjunction when all its children do, a
disjunction when some child does, a negation when its child does not.

* `Filter.holds_and`   a join holds exactly when both sides do
-/

namespace FilterQuery.Filter

mutual

/-- The filter holds when the comparisons hold that `truth` says hold. -/
def holds (truth : Comparison → Bool) : Filter → Bool
  | .compare c => truth c
  | .all fs => allHold truth fs
  | .any fs => someHolds truth fs
  | .not f => !f.holds truth

/-- Every filter of the list holds. -/
def allHold (truth : Comparison → Bool) : List Filter → Bool
  | [] => true
  | f :: fs => f.holds truth && allHold truth fs

/-- Some filter of the list holds. -/
def someHolds (truth : Comparison → Bool) : List Filter → Bool
  | [] => false
  | f :: fs => f.holds truth || someHolds truth fs

end

/-- One filter keeps no more than another, whatever comparisons hold. -/
def Implies (f g : Filter) : Prop :=
  ∀ truth, f.holds truth → g.holds truth

variable {truth : Comparison → Bool}

theorem allHold_eq_all (fs : List Filter) : allHold truth fs = fs.all (holds truth) := by
  induction fs with
  | nil => rfl
  | cons f fs ih => simp [allHold, ih]

theorem someHolds_eq_any (fs : List Filter) : someHolds truth fs = fs.any (holds truth) := by
  induction fs with
  | nil => rfl
  | cons f fs ih => simp [someHolds, ih]

/-- A comparison holds when it is said to hold. -/
theorem holds_compare (c : Comparison) : (Filter.compare c).holds truth = truth c := by
  simp [holds]

/-- A conjunction holds when all its children do. -/
theorem holds_all (fs : List Filter) : (Filter.all fs).holds truth = fs.all (holds truth) := by
  simp [holds, allHold_eq_all]

/-- A disjunction holds when some child does. -/
theorem holds_any (fs : List Filter) : (Filter.any fs).holds truth = fs.any (holds truth) := by
  simp [holds, someHolds_eq_any]

/-- A negation holds when its child does not. -/
theorem holds_not (f : Filter) : (Filter.not f).holds truth = !f.holds truth := by
  simp [holds]

/-- A filter holds exactly when all its conjuncts do. -/
theorem all_conjuncts (f : Filter) : f.conjuncts.all (holds truth) = f.holds truth := by
  unfold conjuncts
  split
  · rw [holds_all]
  · simp

/-- A join holds exactly when both sides do. -/
theorem holds_and (a b : Filter) :
    (a.and b).holds truth = (a.holds truth && b.holds truth) := by
  -- Both sides are decided by their conjuncts, and the join has the conjuncts of both.
  rw [← all_conjuncts, conjuncts_and, List.all_append, all_conjuncts, all_conjuncts]

end FilterQuery.Filter
