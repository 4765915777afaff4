import FilterQuery.Config.Basic

/-! # Setting options one by one

A setting changes one option of a draft. A condition joins those already set, and replaces an
earlier one on the same field; the other settings replace the option.
-/

namespace FilterQuery

/-- A change to one option of a draft. -/
inductive Setting where
  /-- Adds a condition of every search. -/
  | forced (field value : String)
  /-- Adds a condition of a search without a filter string. -/
  | byDefault (field value : String)
  | defaultOrder (terms : List String)
  | caseSensitive (value : Bool)
  | grammar (value : Grammar)
  deriving DecidableEq

/-- Adds a condition to a filter, which may be absent so far. -/
def withCondition (field value : String) (filter : Option FilterMap) : Option FilterMap :=
  some ((filter.getD .empty).insert field value)

namespace Draft

/-- A draft after a change. -/
def apply (d : Draft) : Setting → Draft
  | .forced field value => { d with forcedFilter := withCondition field value d.forcedFilter }
  | .byDefault field value => { d with defaultFilter := withCondition field value d.defaultFilter }
  | .defaultOrder terms => { d with defaultOrder := terms }
  | .caseSensitive value => { d with caseSensitive := value }
  | .grammar value => { d with grammar := value }

/-- A draft after several changes, from the first to the last. -/
def applyAll (d : Draft) (settings : List Setting) : Draft :=
  settings.foldl apply d

@[simp] theorem applyAll_nil (d : Draft) : d.applyAll [] = d := rfl

@[simp] theorem applyAll_cons (d : Draft) (s : Setting) (ss : List Setting) :
    d.applyAll (s :: ss) = (d.apply s).applyAll ss := rfl

/-- Settings in two rows are applied one row after the other. -/
@[simp] theorem applyAll_append (d : Draft) (ss ts : List Setting) :
    d.applyAll (ss ++ ts) = (d.applyAll ss).applyAll ts :=
  List.foldl_append

end Draft

/-! ## Filling a field mapping -/

/-- A change to a field mapping. -/
inductive MappingStep where
  /-- The key stands for one field. -/
  | field (key field : String)
  /-- The key stands for each of the fields. -/
  | fields (key : String) (fields : List String)
  deriving DecidableEq

namespace FieldMapping

/-- A mapping after a change. -/
def apply (m : FieldMapping) : MappingStep → FieldMapping
  | .field key field => m.insert key [field]
  | .fields key fields => m.insert key fields

/-- The mapping that results from several changes, from the first to the last. -/
def ofSteps (steps : List MappingStep) : FieldMapping :=
  steps.foldl apply .empty

/-- The mapping of pairs of a key and its one field; of repeated keys the last pair counts. -/
def ofPairs (pairs : List (String × String)) : FieldMapping :=
  ofSteps (pairs.map fun (key, field) => .field key field)

end FieldMapping

end FilterQuery
