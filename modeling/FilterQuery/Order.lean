import FilterQuery.Config.Basic
import FilterQuery.Decimal.Layout

/-! # Sort orders

A sort string names keys, separated by commas; a dash before a key sorts descending. Each key must
stand for exactly one field. Without a usable sort string the configured order applies, whose terms
name fields directly, and without one of those the field `pk` ascending.

* `SortTerm.display_ofTerm`   a default term is shown as it was written
-/

namespace FilterQuery

inductive Direction where
  | ascending
  | descending
  deriving DecidableEq

namespace Direction

/-- The name of a direction in documents. -/
def tag : Direction → String
  | ascending => "asc"
  | descending => "desc"

/-- The direction with a name. -/
def ofTag? (s : String) : Option Direction :=
  [ascending, descending].find? (·.tag == s)

/-- A direction is found by its document name. -/
@[simp] theorem ofTag?_tag (d : Direction) : ofTag? d.tag = some d := by
  cases d <;> decide

end Direction

/-- A field to sort by. -/
structure SortTerm where
  field : String
  direction : Direction
  deriving DecidableEq

/-- Takes the dash off a sort term: what remains, and the direction. -/
def splitDash : List Char → List Char × Direction
  | '-' :: cs => (cs, .descending)
  | cs => (cs, .ascending)

namespace SortTerm

/-- The sort term that a text names directly. -/
def ofTerm (term : String) : SortTerm :=
  let (field, direction) := splitDash term.toList
  ⟨String.ofList field, direction⟩

/-- A sort term as text: a dash before the field means descending. -/
def display (t : SortTerm) : String :=
  match t.direction with
  | .ascending => t.field
  | .descending => "-" ++ t.field

/-- A default term is shown as it was written. -/
@[simp] theorem display_ofTerm (term : String) : (ofTerm term).display = term := by
  unfold ofTerm splitDash
  split
  · rename_i field _ h
    split at h
    · rename_i cs hcs
      simp only [Prod.mk.injEq] at h
      obtain ⟨rfl, rfl⟩ := h
      rw [← String.toList_inj]
      simp [display, hcs]
    · simp only [Prod.mk.injEq] at h
      obtain ⟨rfl, rfl⟩ := h
      simp [display]

end SortTerm

/-- Why a key cannot be sorted by. -/
inductive SortProblem where
  /-- The key stands for no field. -/
  | unmapped
  /-- The key stands for several fields. -/
  | ambiguous (fields : Nat)
  deriving DecidableEq

/-- A key that cannot be sorted by. -/
structure SortError where
  key : String
  problem : SortProblem
  deriving DecidableEq

/-- The wording of a problem. -/
def SortProblem.message : SortProblem → String
  | unmapped => "key is not mapped to a field"
  | ambiguous fields =>
    "key maps to " ++ String.ofList (Decimal.naturalChars fields) ++ " fields"

/-- The wording of an error. -/
def SortError.message (e : SortError) : String :=
  "invalid sort field '" ++ e.key ++ "': " ++ e.problem.message

namespace Config

/-- The field that an order falls back to. -/
def fallbackTerm : SortTerm := ⟨"pk", .ascending⟩

/-- The order of a search without a sort string. -/
def standingOrder (c : Config) : List SortTerm :=
  if c.defaultOrder = [] then [fallbackTerm] else c.defaultOrder.map .ofTerm

/-- The one field that a key stands for. -/
def sortField (c : Config) (key : List Char) : Except SortError String :=
  match c.mapping.get? (String.ofList key) with
  | some [field] => .ok field
  | some fields => .error ⟨String.ofList key, .ambiguous fields.length⟩
  | none => .error ⟨String.ofList key, .unmapped⟩

/-- The sort term that a token of a sort string names. -/
def sortTerm (c : Config) (token : List Char) : Except SortError SortTerm := do
  let (key, direction) := splitDash token
  let field ← c.sortField key
  return ⟨field, direction⟩

/-- The order that a sort string asks for: one term for each item between commas, or the standing
order if there is none. -/
def order (c : Config) (raw : Option String) : Except SortError (List SortTerm) :=
  match listItems (raw.getD "").toList with
  | [] => .ok c.standingOrder
  | tokens => tokens.mapM c.sortTerm

end Config

end FilterQuery
