/-! # Known beginnings and ends

Reading past a fixed beginning, and taking what stands between a fixed beginning and a fixed
last character. Each function is the inverse of an append:

* `after?_eq_some_iff`     `after? p s = some r ↔ s = p ++ r`
* `before?_eq_some_iff`    `before? c s = some r ↔ s = r ++ [c]`
* `between?_eq_some_iff`   `between? p c s = some r ↔ s = p ++ r ++ [c]`
-/

namespace FilterQuery.Text

/-- What follows `p` in a text that begins with it. -/
def after? : List Char → List Char → Option (List Char)
  | [], s => some s
  | _ :: _, [] => none
  | p :: ps, c :: cs => if p = c then after? ps cs else none

/-- What precedes `c` in a text that ends with it. -/
def before? (c : Char) : List Char → Option (List Char)
  | [] => none
  | [d] => if d = c then some [] else none
  | d :: e :: es => (before? c (e :: es)).map (d :: ·)

/-- What stands between the beginning `p` and the last character `c`. -/
def between? (p : List Char) (c : Char) (s : List Char) : Option (List Char) :=
  (after? p s).bind (before? c)

/-- Reading past a beginning undoes putting it in front. -/
theorem after?_eq_some_iff {p s r : List Char} : after? p s = some r ↔ s = p ++ r := by
  induction p generalizing s with
  | nil => simp [after?]
  | cons q qs ih =>
    cases s with
    | nil => simp [after?]
    | cons c cs =>
      by_cases h : q = c
      · simp [after?, h, ih]
      · simp [after?, h, Ne.symm h]

@[simp] theorem after?_append (p r : List Char) : after? p (p ++ r) = some r :=
  after?_eq_some_iff.2 rfl

/-- Taking off the last character undoes putting it behind. -/
theorem before?_eq_some_iff {c : Char} {s r : List Char} :
    before? c s = some r ↔ s = r ++ [c] := by
  induction s generalizing r with
  | nil => simp [before?]
  | cons d ds ih =>
    -- A last character is recognized by the end of the list behind it.
    cases ds with
    | nil =>
      by_cases h : d = c <;> cases r <;> simp [before?, h]
    | cons e es =>
      simp only [before?, Option.map_eq_some_iff, ih]
      constructor
      · rintro ⟨t, ht, rfl⟩
        simp [ht]
      · intro h
        cases r with
        | nil => simp at h
        | cons q qs =>
          simp only [List.cons_append, List.cons.injEq] at h
          exact ⟨qs, h.2, by simp [h.1]⟩

@[simp] theorem before?_append (c : Char) (r : List Char) : before? c (r ++ [c]) = some r :=
  before?_eq_some_iff.2 rfl

/-- Taking off both ends undoes putting them around. -/
theorem between?_eq_some_iff {p s r : List Char} {c : Char} :
    between? p c s = some r ↔ s = p ++ (r ++ [c]) := by
  simp only [between?, Option.bind_eq_some_iff, after?_eq_some_iff, before?_eq_some_iff]
  constructor
  · rintro ⟨t, rfl, rfl⟩
    rfl
  · intro h
    exact ⟨_, h, rfl⟩

@[simp] theorem between?_append (p r : List Char) (c : Char) :
    between? p c (p ++ (r ++ [c])) = some r :=
  between?_eq_some_iff.2 rfl

end FilterQuery.Text
