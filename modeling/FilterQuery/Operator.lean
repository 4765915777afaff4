/-! # Operators and comparators

An operator is what a clause of a filter string asks for. A comparator is what a comparison in a
filter tree carries to the store. They differ in two places: negated membership becomes a negation
around a membership test, and the substring operator splits by the case setting.
-/

namespace FilterQuery

/-- What a clause asks for. -/
inductive Operator where
  /-- The field contains the text. -/
  | contains
  /-- The field is the text. -/
  | exact
  /-- The field is one of a list of texts. -/
  | isIn
  /-- The field is none of a list of texts. -/
  | notIn
  /-- The field is less than the text. -/
  | lt
  /-- The field is at most the text. -/
  | le
  /-- The field is greater than the text. -/
  | gt
  /-- The field is at least the text. -/
  | ge
  deriving DecidableEq

/-- How a store compares a field with a value. -/
inductive Comparator where
  /-- The two are equal. -/
  | exact
  /-- The field contains the value, whatever the case of the letters. -/
  | containsAnyCase
  /-- The field contains the value letter by letter. -/
  | containsSameCase
  /-- The field is one of the values. -/
  | isIn
  /-- The field is less than the value. -/
  | lt
  /-- The field is at most the value. -/
  | le
  /-- The field is greater than the value. -/
  | gt
  /-- The field is at least the value. -/
  | ge
  deriving DecidableEq

namespace Operator

/-- All operators. -/
def values : List Operator := [contains, exact, isIn, notIn, lt, le, gt, ge]

/-- The short name of an operator in a filter string. -/
def code : Operator → String
  | contains => "co"
  | exact => "eq"
  | isIn => "in"
  | notIn => "ni"
  | lt => "lt"
  | le => "lte"
  | gt => "gt"
  | ge => "gte"

/-- The operator with a short name. -/
def ofCode? (s : String) : Option Operator :=
  values.find? (·.code == s)

/-- The operator is written with a bracketed list. -/
def takesList : Operator → Bool
  | isIn | notIn => true
  | _ => false

/-- The comparator that carries out an operator. Both membership operators compare by membership;
the negation is expressed by the tree. -/
def comparator (caseSensitive : Bool) : Operator → Comparator
  | contains => if caseSensitive then .containsSameCase else .containsAnyCase
  | exact => .exact
  | isIn | notIn => .isIn
  | lt => .lt
  | le => .le
  | gt => .gt
  | ge => .ge

/-- No operator is left out. -/
theorem mem_values (o : Operator) : o ∈ values := by
  cases o <;> decide

/-- An operator is found by its short name. -/
@[simp] theorem ofCode?_code (o : Operator) : ofCode? o.code = some o := by
  cases o <;> decide

/-- No two operators share a short name. -/
theorem code_injective {o p : Operator} (h : o.code = p.code) : o = p := by
  simpa using congrArg ofCode? h

/-- Membership is what list operators compare by, and only they do. -/
theorem comparator_eq_isIn_iff {caseSensitive : Bool} {o : Operator} :
    o.comparator caseSensitive = .isIn ↔ o.takesList := by
  cases o <;> cases caseSensitive <;> simp [comparator, takesList]

end Operator

namespace Comparator

/-- All comparators. -/
def values : List Comparator :=
  [exact, containsAnyCase, containsSameCase, isIn, lt, le, gt, ge]

/-- The name of a comparator as a field lookup, shown to readers. -/
def lookup : Comparator → String
  | exact => "exact"
  | containsAnyCase => "icontains"
  | containsSameCase => "contains"
  | isIn => "in"
  | lt => "lt"
  | le => "lte"
  | gt => "gt"
  | ge => "gte"

/-- The name of a comparator in documents. -/
def tag : Comparator → String
  | exact => "exact"
  | containsAnyCase => "contains_ci"
  | containsSameCase => "contains_cs"
  | isIn => "in"
  | lt => "lt"
  | le => "lte"
  | gt => "gt"
  | ge => "gte"

/-- The comparator with a lookup name. -/
def ofLookup? (s : String) : Option Comparator :=
  values.find? (·.lookup == s)

/-- The comparator with a document name. -/
def ofTag? (s : String) : Option Comparator :=
  values.find? (·.tag == s)

/-- A comparator is found by its lookup name. -/
@[simp] theorem ofLookup?_lookup (c : Comparator) : ofLookup? c.lookup = some c := by
  cases c <;> decide

/-- A comparator is found by its document name. -/
@[simp] theorem ofTag?_tag (c : Comparator) : ofTag? c.tag = some c := by
  cases c <;> decide

end Comparator

end FilterQuery
