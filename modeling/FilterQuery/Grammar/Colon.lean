import FilterQuery.Clause
import FilterQuery.Text.Affix

/-! # The colon grammar

A token is a key, a colon and a value whose outer form names the operator: `price:<20`,
`status:"open"`, `status:~[open,new]`. A value of no special form asks for a substring.

* `eq_of_form?_eq_some`         a text has at most one of the special forms
* `operatorAndText_of_form?`    a text of a special form names that form's operator
* `operatorAndText_of_no_form`  a text of no special form asks for a substring
* `classify_eq_some_iff`        what a token says about its clause
-/

namespace FilterQuery.Colon

/-- What a text of an operator's special form holds inside. -/
def form? (o : Operator) (s : List Char) : Option (List Char) :=
  match o with
  | .contains => none
  | .lt => Text.after? ['<'] s
  | .le => Text.after? ['|', '<'] s
  | .gt => Text.after? ['>'] s
  | .ge => Text.after? ['|', '>'] s
  | .exact => Text.between? ['"'] '"' s
  | .isIn => Text.between? ['['] ']' s
  | .notIn => Text.between? ['~', '['] ']' s

/-- The operators with a special form, in the order in which they are tried. No text has two of
the forms, so the order does not matter. -/
def forms : List Operator :=
  [.lt, .le, .gt, .ge, .exact, .isIn, .notIn]

/-- The operator that the outer form of a text names, and the text inside the form. -/
def operatorAndText (s : List Char) : Operator × List Char :=
  (forms.findSome? fun o => (form? o s).map (o, ·)).getD (.contains, s)

/-- The clause of a token, if it has a colon with a key before it. -/
def classify (token : List Char) : Option Clause :=
  match Text.cut? ':' token with
  | none => none
  | some (k, s) =>
    if isKey k then
      let (o, v) := operatorAndText s
      some ⟨String.ofList k, o, o.readValue v⟩
    else none

/-! ## Lemmas -/

/-- A text has at most one of the special forms. -/
theorem eq_of_form?_eq_some {o p : Operator} {s v w : List Char} (ho : form? o s = some v)
    (hp : form? p s = some w) : o = p := by
  cases o <;> cases p <;>
    simp only [form?, Text.after?_eq_some_iff, Text.between?_eq_some_iff, reduceCtorEq] at ho hp <;>
    simp_all

/-- The forms that a text can have are among those that are tried. -/
theorem mem_forms_of_form? {o : Operator} {s v : List Char} (h : form? o s = some v) :
    o ∈ forms := by
  cases o <;> simp [form?] at h <;> decide

/-- A text of a special form names that form's operator. -/
theorem operatorAndText_of_form? {o : Operator} {s v : List Char} (h : form? o s = some v) :
    operatorAndText s = (o, v) := by
  cases hf : forms.findSome? fun o => (form? o s).map (o, ·) with
  | none =>
    have := List.findSome?_eq_none_iff.1 hf o (mem_forms_of_form? h)
    simp [h] at this
  | some ow =>
    obtain ⟨p, -, hp⟩ := List.exists_of_findSome?_eq_some hf
    obtain ⟨w, hw, rfl⟩ := Option.map_eq_some_iff.1 hp
    -- The form that the search stops at is the only one there is.
    obtain rfl := eq_of_form?_eq_some h hw
    simp only [h, Option.some.injEq] at hw
    simp [operatorAndText, hf, hw]

/-- A text of no special form asks for a substring. -/
theorem operatorAndText_of_no_form {s : List Char} (h : ∀ o, form? o s = none) :
    operatorAndText s = (.contains, s) := by
  have hf : (forms.findSome? fun o => (form? o s).map (o, ·)) = none :=
    List.findSome?_eq_none_iff.2 fun o _ => by simp [h o]
  simp [operatorAndText, hf]

/-- No key holds a colon. -/
theorem colon_notMem_of_isKey {k : List Char} (h : isKey k) : ':' ∉ k := fun hm =>
  absurd ((isKey_iff.1 h).2 ':' hm) (by decide)

/-- A token is a key, a colon and a text that names the operator. -/
theorem classify_eq_some_iff {token : List Char} {clause : Clause} :
    classify token = some clause ↔
      isKey clause.key.toList ∧ ∃ s v, token = clause.key.toList ++ ':' :: s ∧
        operatorAndText s = (clause.operator, v) ∧ clause.value = clause.operator.readValue v := by
  constructor
  · intro h
    unfold classify at h
    split at h
    · exact nomatch h
    · rename_i k s hcut
      split at h
      · rename_i hkey
        obtain rfl := Option.some.inj h
        obtain ⟨htoken, -⟩ := Text.cut?_eq_some_iff.1 hcut
        rw [String.toList_ofList]
        exact ⟨hkey, s, _, htoken, rfl, rfl⟩
      · exact nomatch h
  · intro h
    obtain ⟨hkey, s, v, htoken, hs, hvalue⟩ := h
    -- A key holds no colon, so the first colon stands behind it.
    have hcut : Text.cut? ':' token = some (clause.key.toList, s) :=
      Text.cut?_eq_some_iff.2 ⟨htoken, colon_notMem_of_isKey hkey⟩
    simp only [classify, hcut, hkey, if_true, hs, String.ofList_toList, ← hvalue]

end FilterQuery.Colon
