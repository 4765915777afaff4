import FilterQuery.Clause

/-! # Filter trees

A filter tree states which records a search keeps. Its leaves compare a field with a value; its
inner nodes are conjunctions, disjunctions and negations. `Filter.all []` is the filter that keeps
everything, and `Filter.and` joins two filters without nesting conjunctions:

* `Filter.and_assoc`, `Filter.everything_and`, `Filter.and_everything`   a monoid
* `Filter.conjuncts_and`   the conjuncts of a join are those of its two sides
-/

namespace FilterQuery

/-- One comparison of a field with a value. -/
structure Comparison where
  field : String
  comparator : Comparator
  value : Value
  deriving DecidableEq

/-- Which records a search keeps. -/
inductive Filter where
  /-- Those for which the comparison holds. -/
  | compare (comparison : Comparison)
  /-- Those that every child keeps. -/
  | all (children : List Filter)
  /-- Those that some child keeps. -/
  | any (children : List Filter)
  /-- Those that the child does not keep. -/
  | not (child : Filter)

namespace Filter

mutual

/-- Equality of filters is decided node by node. -/
def decEq : (a b : Filter) → Decidable (a = b)
  | .compare c, .compare d => decidable_of_iff (c = d) (by simp)
  | .all fs, .all gs =>
    match decEqList fs gs with
    | .isTrue h => .isTrue (by rw [h])
    | .isFalse h => .isFalse fun he => h (by simpa using he)
  | .any fs, .any gs =>
    match decEqList fs gs with
    | .isTrue h => .isTrue (by rw [h])
    | .isFalse h => .isFalse fun he => h (by simpa using he)
  | .not f, .not g =>
    match decEq f g with
    | .isTrue h => .isTrue (by rw [h])
    | .isFalse h => .isFalse fun he => h (by simpa using he)
  | .compare _, .all _ | .compare _, .any _ | .compare _, .not _ => .isFalse (by simp)
  | .all _, .compare _ | .all _, .any _ | .all _, .not _ => .isFalse (by simp)
  | .any _, .compare _ | .any _, .all _ | .any _, .not _ => .isFalse (by simp)
  | .not _, .compare _ | .not _, .all _ | .not _, .any _ => .isFalse (by simp)

/-- Equality of lists of filters. -/
def decEqList : (fs gs : List Filter) → Decidable (fs = gs)
  | [], [] => .isTrue rfl
  | [], _ :: _ | _ :: _, [] => .isFalse (by simp)
  | f :: fs, g :: gs =>
    match decEq f g, decEqList fs gs with
    | .isTrue h, .isTrue h' => .isTrue (by rw [h, h'])
    | .isFalse h, _ => .isFalse fun he => h (by simp at he; exact he.1)
    | _, .isFalse h => .isFalse fun he => h (by simp at he; exact he.2)

end

instance : DecidableEq Filter := decEq

/-- The filter that keeps every record. -/
def everything : Filter := .all []

/-- The filter is the empty conjunction. -/
def isVacuous : Filter → Bool
  | .all [] => true
  | _ => false

/-- The parts of a filter that is a conjunction; another filter is its own only part. -/
def conjuncts : Filter → List Filter
  | .all fs => fs
  | f => [f]

/-- Keeps what both filters keep. An empty conjunction vanishes, and conjunctions are joined
instead of nested. -/
def and (a b : Filter) : Filter :=
  if b.isVacuous then a
  else if a.isVacuous then b
  else .all (a.conjuncts ++ b.conjuncts)

mutual

/-- The comparisons of a filter, from left to right. -/
def comparisons : Filter → List Comparison
  | .compare c => [c]
  | .all fs => comparisonsOf fs
  | .any fs => comparisonsOf fs
  | .not f => f.comparisons

/-- The comparisons of several filters, from left to right. -/
def comparisonsOf : List Filter → List Comparison
  | [] => []
  | f :: fs => f.comparisons ++ comparisonsOf fs

end

/-! ## Lemmas -/

/-- The comparisons of several filters are those of each, in their order. -/
theorem comparisonsOf_eq_flatMap (fs : List Filter) :
    comparisonsOf fs = fs.flatMap comparisons := by
  induction fs with
  | nil => rfl
  | cons f fs ih => simp [comparisonsOf, ih]

/-- The empty conjunction is the filter that keeps every record. -/
theorem isVacuous_iff {f : Filter} : f.isVacuous ↔ f = everything := by
  unfold isVacuous everything
  split <;> simp_all

@[simp] theorem isVacuous_everything : everything.isVacuous := rfl

@[simp] theorem conjuncts_everything : everything.conjuncts = [] := rfl

/-- Only the filter that keeps every record has no parts. -/
theorem conjuncts_eq_nil_iff {f : Filter} : f.conjuncts = [] ↔ f = everything := by
  unfold conjuncts everything
  split <;> simp_all

/-- The filter that keeps every record is a unit on the right. -/
@[simp] theorem and_everything (a : Filter) : a.and everything = a := by
  simp [and]

/-- The filter that keeps every record is a unit on the left. -/
@[simp] theorem everything_and (a : Filter) : everything.and a = a := by
  by_cases h : a.isVacuous
  · simp [and, isVacuous_iff.1 h]
  · simp [and, h]

/-- The conjuncts of a join are those of its two sides. -/
theorem conjuncts_and (a b : Filter) : (a.and b).conjuncts = a.conjuncts ++ b.conjuncts := by
  unfold and
  split
  · rename_i h
    simp [isVacuous_iff.1 h]
  · split
    · rename_i h
      simp [isVacuous_iff.1 h]
    · rfl

/-- Two filters that both keep something out are joined to one conjunction. -/
theorem and_of_ne_everything {a b : Filter} (ha : a ≠ everything) (hb : b ≠ everything) :
    a.and b = .all (a.conjuncts ++ b.conjuncts) := by
  simp [and, isVacuous_iff, ha, hb]

/-- A join keeps out what one side does. -/
theorem and_ne_everything_of_left {a b : Filter} (ha : a ≠ everything) :
    a.and b ≠ everything := by
  intro h
  have := conjuncts_and a b
  rw [h, conjuncts_everything, eq_comm, List.append_eq_nil_iff] at this
  exact ha (conjuncts_eq_nil_iff.1 this.1)

/-- Joining filters is associative, down to the shape of the tree. -/
theorem and_assoc (a b c : Filter) : (a.and b).and c = a.and (b.and c) := by
  -- Units drop out on either side; of three other filters the parts are put together.
  by_cases ha : a = everything
  · simp [ha]
  by_cases hb : b = everything
  · simp [hb]
  by_cases hc : c = everything
  · simp [hc]
  rw [and_of_ne_everything (and_ne_everything_of_left ha) hc,
    and_of_ne_everything ha (and_ne_everything_of_left hb), conjuncts_and, conjuncts_and,
    List.append_assoc]

end Filter

end FilterQuery
