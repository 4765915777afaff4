import FilterQuery.Filter.Basic

/-! # Filter trees as text

The form in which a filter is shown to a reader: a comparison as its field, lookup name and value;
groups as `and(…)`, `or(…)` and `not(…)`; the empty conjunction as `true`.
-/

namespace FilterQuery

/-- The characters of a comparison as shown to readers. -/
def Comparison.displayChars (c : Comparison) : List Char :=
  c.field.toList ++ ' ' :: c.comparator.lookup.toList ++ ' ' :: c.value.displayChars

/-- A comparison as shown to readers. -/
def Comparison.display (c : Comparison) : String :=
  String.ofList c.displayChars

namespace Filter

mutual

/-- The characters of a filter as shown to readers. -/
def displayChars : Filter → List Char
  | .compare c => c.displayChars
  | .all [] => "true".toList
  | .all fs => "and(".toList ++ displayGroup fs ++ [')']
  | .any fs => "or(".toList ++ displayGroup fs ++ [')']
  | .not f => "not(".toList ++ displayChars f ++ [')']

/-- The characters of a group's members, separated by a comma and a space. -/
def displayGroup : List Filter → List Char
  | [] => []
  | [f] => displayChars f
  | f :: g :: fs => displayChars f ++ ',' :: ' ' :: displayGroup (g :: fs)

end

/-- A filter as shown to readers. -/
def display (f : Filter) : String :=
  String.ofList f.displayChars

/-- Members are shown with commas between them. -/
theorem displayGroup_eq_intercalate (fs : List Filter) :
    displayGroup fs = List.intercalate [',', ' '] (fs.map displayChars) := by
  induction fs with
  | nil => simp [displayGroup, List.intercalate]
  | cons f fs ih =>
    cases fs with
    | nil => simp [displayGroup, List.intercalate]
    | cons g gs =>
      rw [displayGroup, ih]
      simp [List.intercalate]

end Filter

end FilterQuery
