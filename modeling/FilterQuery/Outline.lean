import FilterQuery.Json.Basic

/-! # Outlines

An outline is what a query looks like before it is written in some format: texts, lists, records
with named members, and variants, which carry the name of their kind. JSON has no variants, so there
a variant becomes an object whose only member has the name of the kind.
-/

namespace FilterQuery

/-- A structured value to be written. -/
inductive Outline where
  | text (text : String)
  | list (items : List Outline)
  /-- Members with distinct names, in the order in which they are written. -/
  | record (members : List (String × Outline))
  /-- A value of the kind `tag`. -/
  | variant (tag : String) (payload : Outline)

namespace Outline

mutual

/-- An outline as a document; a variant becomes an object with one member. -/
def toJson : Outline → Json
  | text s => .string s
  | list items => .array (listToJson items)
  | record members => .object (membersToJson members)
  | variant tag payload => .object [(tag, toJson payload)]

/-- The items of a list as documents. -/
def listToJson : List Outline → List Json
  | [] => []
  | o :: os => toJson o :: listToJson os

/-- The members of a record as documents. -/
def membersToJson : List (String × Outline) → List (String × Json)
  | [] => []
  | (k, o) :: os => (k, toJson o) :: membersToJson os

end

/-- Items are written one by one. -/
theorem listToJson_eq_map (os : List Outline) : listToJson os = os.map toJson := by
  induction os with
  | nil => rfl
  | cons o os ih => simp [listToJson, ih]

/-- Members are written one by one, under their names. -/
theorem membersToJson_eq_map (ms : List (String × Outline)) :
    membersToJson ms = ms.map fun (k, o) => (k, toJson o) := by
  induction ms with
  | nil => rfl
  | cons m ms ih => simp [membersToJson, ih]

end Outline

end FilterQuery
