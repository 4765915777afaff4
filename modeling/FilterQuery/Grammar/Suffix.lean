import FilterQuery.Clause
import FilterQuery.Text.Affix

/-! # The suffix grammar

A token is a key, the marker of an operator and a value: `status__eq__open`. The list operators
take their value between brackets: `status__in__[open,new]`.

Markers may occur in keys and values, so two rules settle which one counts. Operators are tried in
the order of `precedence`, and the first that fits wins. For one operator the shortest key counts.

* `split?_eq_some_iff`   what a split says about the token, and that no shorter key would do
* `split?_eq_none_iff`   an operator fails exactly when the token cannot be cut at its marker
-/

namespace FilterQuery.Suffix

/-- The operators in the order in which they are tried. -/
def precedence : List Operator :=
  [.lt, .le, .gt, .ge, .exact, .isIn, .notIn, .contains]

/-- What separates the key from the value: the operator's code between double underscores. -/
def marker (o : Operator) : List Char :=
  '_' :: '_' :: o.code.toList ++ ['_', '_']

/-- The text to read as the value, given what follows the marker: for a list operator what stands
between the brackets, for another operator all of it. -/
def payload? (o : Operator) (s : List Char) : Option (List Char) :=
  if o.takesList then Text.between? ['['] ']' s else some s

/-- Cuts a token at an operator's marker, after the shortest possible key. -/
def split? (o : Operator) : List Char → Option (List Char × List Char)
  | [] => none
  | c :: cs =>
    if isKeyChar c then
      match (Text.after? (marker o) cs).bind (payload? o) with
      | some v => some ([c], v)
      | none => (split? o cs).map fun (k, v) => (c :: k, v)
    else none

/-- The clause that an operator reads from a token. -/
def read? (o : Operator) (token : List Char) : Option Clause :=
  (split? o token).map fun (k, v) => ⟨String.ofList k, o, o.readValue v⟩

/-- The clause of the first operator that fits a token. -/
def classify (token : List Char) : Option Clause :=
  precedence.findSome? (read? · token)

/-! ## Lemmas -/

/-- Every operator is tried. -/
theorem mem_precedence (o : Operator) : o ∈ precedence := by
  cases o <;> decide

/-- A token can be cut at an operator's marker into a key and the text of a value. -/
def Cuts (o : Operator) (token k v : List Char) : Prop :=
  isKey k ∧ ∃ r, token = k ++ (marker o ++ r) ∧ payload? o r = some v

/-- A cut behind the first character. -/
theorem cuts_singleton_iff {o : Operator} {c : Char} {cs v : List Char} :
    Cuts o (c :: cs) [c] v ↔
      isKeyChar c ∧ (Text.after? (marker o) cs).bind (payload? o) = some v := by
  simp [Cuts, isKey, Option.bind_eq_some_iff, Text.after?_eq_some_iff]

/-- A cut behind more than one character is a cut of what follows the first. -/
theorem cuts_cons_iff {o : Operator} {c d : Char} {cs k v : List Char} :
    Cuts o (c :: cs) (c :: d :: k) v ↔ isKeyChar c ∧ Cuts o cs (d :: k) v := by
  simp [Cuts, isKey]
  constructor
  · rintro ⟨⟨hc, hd, hk⟩, r, rfl, hr⟩
    exact ⟨hc, ⟨hd, hk⟩, r, rfl, hr⟩
  · rintro ⟨hc, ⟨hd, hk⟩, r, rfl, hr⟩
    exact ⟨⟨hc, hd, hk⟩, r, rfl, hr⟩

/-- The key of a cut begins with the first character of the token. -/
theorem Cuts.cons_eq {o : Operator} {c d : Char} {cs k v : List Char}
    (h : Cuts o (c :: cs) (d :: k) v) : d = c := by
  obtain ⟨-, r, hr, -⟩ := h
  simp only [List.cons_append, List.cons.injEq] at hr
  exact hr.1.symm

/-- The key of a cut is not empty. -/
theorem not_cuts_nil {o : Operator} {token v : List Char} : ¬ Cuts o token [] v := by
  simp [Cuts, isKey]

/-- A split is a cut. -/
theorem cuts_of_split? {o : Operator} {token k v : List Char}
    (h : split? o token = some (k, v)) : Cuts o token k v := by
  induction token generalizing k v with
  | nil => simp [split?] at h
  | cons c cs ih =>
    rw [split?] at h
    split at h
    · rename_i hc
      split at h
      · rename_i w hw
        simp only [Option.some.injEq, Prod.mk.injEq] at h
        -- The marker follows the first character: the key is that character.
        obtain ⟨rfl, rfl⟩ := h
        exact cuts_singleton_iff.2 ⟨hc, hw⟩
      -- Otherwise the key is the first character and a key of the rest.
      · obtain ⟨⟨k', v'⟩, hk, hp⟩ := Option.map_eq_some_iff.1 h
        simp only [Prod.mk.injEq] at hp
        obtain ⟨rfl, rfl⟩ := hp
        have := ih hk
        cases k' with
        | nil => exact absurd this not_cuts_nil
        | cons d k' => exact cuts_cons_iff.2 ⟨hc, this⟩
    · simp at h

/-- Where there is a cut there is a split, with a key that is no longer. -/
theorem split?_of_cuts {o : Operator} {token k v : List Char} (h : Cuts o token k v) :
    ∃ k' v', split? o token = some (k', v') ∧ k'.length ≤ k.length := by
  induction token generalizing k v with
  | nil =>
    obtain ⟨hk, r, hr, -⟩ := h
    simp [isKey_iff, marker] at hk hr
  | cons c cs ih =>
    cases k with
    | nil => exact absurd h not_cuts_nil
    | cons d k =>
      obtain rfl := h.cons_eq
      rw [split?]
      cases k with
      | nil =>
        obtain ⟨hc, hv⟩ := cuts_singleton_iff.1 h
        exact ⟨[d], v, by simp [hc, hv], Nat.le_refl _⟩
      | cons e k =>
        obtain ⟨hc, hcs⟩ := cuts_cons_iff.1 h
        obtain ⟨k', v', hk', hl⟩ := ih hcs
        rw [if_pos hc]
        -- A marker that comes earlier gives a shorter key, and is the one that `split?` takes.
        split
        · exact ⟨[d], _, rfl, by simp⟩
        · exact ⟨d :: k', v', by simp [hk'], by simpa using hl⟩

/-- An operator fails exactly when the token cannot be cut at its marker. -/
theorem split?_eq_none_iff {o : Operator} {token : List Char} :
    split? o token = none ↔ ∀ k v, ¬ Cuts o token k v := by
  constructor
  · intro h k v hc
    obtain ⟨k', v', hs, -⟩ := split?_of_cuts hc
    simp [hs] at h
  · intro h
    cases hs : split? o token with
    | none => rfl
    | some kv => exact absurd (cuts_of_split? hs) (h kv.1 kv.2)

/-- Two cuts of one token with keys of one length are the same cut. -/
theorem Cuts.unique {o : Operator} {token k v k' v' : List Char} (h : Cuts o token k v)
    (h' : Cuts o token k' v') (hl : k.length = k'.length) : k = k' ∧ v = v' := by
  obtain ⟨-, r, hr, hv⟩ := h
  obtain ⟨-, r', hr', hv'⟩ := h'
  -- Keys of one length take off the same characters.
  have ha := List.append_inj (hr.symm.trans hr') hl
  have hrr : r = r' := List.append_cancel_left ha.2
  subst hrr
  exact ⟨ha.1, by simpa [hv] using hv'⟩

/-- A split is a cut, and the one with the shortest key. -/
theorem split?_eq_some_iff {o : Operator} {token k v : List Char} :
    split? o token = some (k, v) ↔
      Cuts o token k v ∧ ∀ k' v', Cuts o token k' v' → k.length ≤ k'.length := by
  constructor
  · intro h
    refine ⟨cuts_of_split? h, fun k' v' hc => ?_⟩
    obtain ⟨k'', v'', hs, hl⟩ := split?_of_cuts hc
    simp only [h, Option.some.injEq, Prod.mk.injEq] at hs
    rw [hs.1]
    exact hl
  · rintro ⟨hc, hmin⟩
    -- The split has a key no longer than the given one, so the two are of one length.
    obtain ⟨k', v', hs, hl⟩ := split?_of_cuts hc
    have hc' := cuts_of_split? hs
    obtain ⟨rfl, rfl⟩ := hc.unique hc' (Nat.le_antisymm (hmin k' v' hc') hl)
    exact hs

end FilterQuery.Suffix
