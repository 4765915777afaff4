import FilterQuery.Grammar

/-!
# Where markers stand

The text of a clause is a key, a marker and a rest. Keys and rests may hold markers themselves, and
the last underscores of one marker may be the first of the next, so a text can often be cut in
several ways. This file says which cut the grammar takes, and where a second marker can stand when
the key has no double underscore.

## Key results

- `Suffix.classify_eq_some_iff`: the first operator that can cut a token wins, with its shortest key
- `Suffix.own_marker_or_later`: behind a key without a double underscore, a marker is the clause's own
  or stands in what follows the code of the clause's operator
- `Suffix.infix_or_completes`: a marker that stands there is a part of the rest, or the rest completes it
-/

namespace FilterQuery.Suffix

/-! ## Precedence -/

/-- The operators that are tried before an operator. -/
def earlier (o : Operator) : List Operator :=
  precedence.takeWhile (· ≠ o)

/-- Every operator has its place in the order of precedence, behind those that are tried earlier. -/
private theorem exists_precedence_eq (o : Operator) : ∃ later, precedence = earlier o ++ o :: later := by
  cases o <;> exact ⟨_, rfl⟩

theorem ne_of_mem_earlier {o p : Operator} (h : p ∈ earlier o) : p ≠ o := by
  have hne := List.all_eq_true.1 (List.all_takeWhile (l := precedence) (p := (· ≠ o))) p h
  simpa using hne

/-- What stands in front of an operator in the order of precedence is what is tried before it. -/
private theorem eq_earlier_of_precedence_eq {o : Operator} {front back : List Operator}
    (h : precedence = front ++ o :: back) : front = earlier o := by
  have hnodup : (front ++ o :: back).Nodup := by
    rw [← h]
    decide
  -- No operator stands twice in the order, so the first place of this one is the one given.
  have hfront : ∀ p ∈ front, p ≠ o := fun p hp =>
    (List.nodup_append.1 hnodup).2.2 p hp o (List.mem_cons_self ..)
  rw [earlier, h, List.takeWhile_append_of_pos (by simpa using hfront)]
  simp

/-- An operator that cannot cut a token does not read it. -/
private theorem read?_eq_none_of_not_cuts {o : Operator} {token : List Char}
    (h : ∀ k v, ¬ Cuts o token k v) : read? o token = none := by
  rw [read?, split?_eq_none_iff.2 h]
  rfl

/-- The first operator that can cut a token wins, with its shortest key. -/
theorem classify_eq_some_iff {token : List Char} {clause : Clause} :
    classify token = some clause ↔
      (∀ p ∈ earlier clause.operator, ∀ k v, ¬ Cuts p token k v) ∧
        ∃ v, split? clause.operator token = some (clause.key.toList, v) ∧
          clause.value = clause.operator.readValue v := by
  rw [classify, List.findSome?_eq_some_iff]
  constructor
  · intro h
    obtain ⟨front, o, back, horder, ho, hfront⟩ := h
    obtain ⟨⟨k, v⟩, hsplit, rfl⟩ := Option.map_eq_some_iff.1 ho
    refine ⟨fun p hp => ?_, v, by rw [String.toList_ofList]; exact hsplit, rfl⟩
    rw [← eq_earlier_of_precedence_eq horder] at hp
    exact split?_eq_none_iff.1 (Option.map_eq_none_iff.1 (hfront p hp))
  · intro h
    obtain ⟨hearlier, v, hsplit, hvalue⟩ := h
    obtain ⟨later, horder⟩ := exists_precedence_eq clause.operator
    refine ⟨_, _, later, horder, ?_, fun p hp => read?_eq_none_of_not_cuts (hearlier p hp)⟩
    simp only [read?, hsplit, Option.map_some, String.ofList_toList, ← hvalue]

/-! ## Codes -/

theorem underscore_notMem_code (o : Operator) : '_' ∉ o.code.toList := by
  cases o <;> decide

private theorem code_ne_nil (o : Operator) : o.code.toList ≠ [] := by
  cases o <;> decide

/-- A code ends at the first underscore, so a text tells the code that it begins with. -/
private theorem code_append_inj {o p : Operator} {s t : List Char}
    (h : o.code.toList ++ '_' :: s = p.code.toList ++ '_' :: t) : o = p ∧ s = t := by
  -- Cutting at the first underscore is a function, so the codes and the rests are the same.
  have ho : Text.cut? '_' (o.code.toList ++ '_' :: s) = some (o.code.toList, s) :=
    Text.cut?_eq_some_iff.2 ⟨rfl, underscore_notMem_code o⟩
  have hp : Text.cut? '_' (p.code.toList ++ '_' :: t) = some (p.code.toList, t) :=
    Text.cut?_eq_some_iff.2 ⟨rfl, underscore_notMem_code p⟩
  rw [h, hp, Option.some.injEq, Prod.mk.injEq] at ho
  exact ⟨Operator.code_injective (String.toList_inj.1 ho.1.symm), ho.2.symm⟩

/-! ## Markers behind a key -/

/-- Markers are made of key characters, which is why keys can hold them. -/
theorem isKeyChar_of_mem_marker {o : Operator} {c : Char} (h : c ∈ marker o) : isKeyChar c := by
  have hall : (marker o).all isKeyChar = true := by cases o <;> decide
  exact List.all_eq_true.1 hall c h

/-- A key may be followed by characters of a marker and stay a key. -/
theorem isKey_append_of_subset_marker {k t : List Char} {o : Operator} (hk : isKey k)
    (ht : t ⊆ marker o) : isKey (k ++ t) :=
  isKey_append hk fun _ hc => isKeyChar_of_mem_marker (ht hc)

/-- No marker holds the bar. -/
theorem delimiter_notMem_marker (o : Operator) : '|' ∉ marker o := by
  cases o <;> decide

theorem marker_append (o : Operator) (s : List Char) :
    marker o ++ s = '_' :: '_' :: (o.code.toList ++ '_' :: '_' :: s) := by
  simp [marker]

/-- A text tells the marker that it begins with, and what follows it. -/
private theorem marker_append_inj {o p : Operator} {s t : List Char}
    (h : marker o ++ s = marker p ++ t) : o = p ∧ s = t := by
  simp only [marker_append, List.cons.injEq, true_and] at h
  obtain ⟨hop, hst⟩ := code_append_inj h
  exact ⟨hop, (List.cons.inj hst).2⟩

/-- No marker begins one character after another, for a code does not begin with an underscore. -/
private theorem marker_append_ne_cons_marker (o p : Operator) (c : Char) (s t : List Char) :
    marker o ++ s ≠ c :: (marker p ++ t) := by
  intro h
  simp only [marker_append, List.cons.injEq] at h
  obtain ⟨-, -, hcode⟩ := h
  cases ho : o.code.toList with
  | nil => exact code_ne_nil o ho
  | cons d ds =>
    -- The third character would be a letter of one and an underscore of the other.
    rw [ho, List.cons_append, List.cons.injEq] at hcode
    exact underscore_notMem_code o (by simp [ho, hcode.1])

/-- In a text whose key has no double underscore, a marker is the clause's own, or it stands in what
    follows the code of the clause's operator. -/
theorem own_marker_or_later {k k' s r : List Char} {o p : Operator} (hk : ¬ ['_', '_'] <:+: k)
    (h : k ++ (marker o ++ s) = k' ++ (marker p ++ r)) :
    (k' = k ∧ p = o ∧ r = s) ∨
      ∃ y, k' = k ++ '_' :: '_' :: (o.code.toList ++ y) ∧ '_' :: '_' :: s = y ++ (marker p ++ r) := by
  -- One of the two keys is a prefix of the other.
  rcases List.append_eq_append_iff.1 h with ⟨a, hkey, hrest⟩ | ⟨a, hkey, hrest⟩
  · -- The other key is the longer one, by `a`.
    match a with
    | [] =>
      obtain ⟨hop, hsr⟩ := marker_append_inj hrest
      exact .inl ⟨by simpa using hkey, hop.symm, hsr.symm⟩
    | [c] =>
      -- The markers would begin one character apart.
      exact absurd hrest (marker_append_ne_cons_marker o p c s r)
    | c :: d :: a =>
      rw [marker_append, List.cons_append, List.cons_append, List.cons.injEq, List.cons.injEq] at hrest
      obtain ⟨rfl, rfl, hcode⟩ := hrest
      -- The code holds no underscore, so `a` reaches to its end at least.
      rcases List.append_eq_append_iff.1 hcode with ⟨y, rfl, hy⟩ | ⟨b, hb, hy⟩
      · exact .inr ⟨y, hkey, hy⟩
      · cases b with
        | nil => exact .inr ⟨[], by simpa [hb] using hkey, hy.symm⟩
        | cons e b =>
          -- The other marker would begin inside the code.
          rw [marker_append, List.cons_append, List.cons.injEq] at hy
          exact absurd (by simp [hb, ← hy.1]) (underscore_notMem_code o)
  · -- The other key is the shorter one, by `a`.
    match a with
    | [] =>
      obtain ⟨hop, hsr⟩ := marker_append_inj hrest
      exact .inl ⟨by simpa using hkey.symm, hop, hsr⟩
    | [c] => exact absurd hrest (marker_append_ne_cons_marker p o c r s)
    | c :: d :: a =>
      -- The key would hold the first two underscores of the other marker.
      rw [marker_append, List.cons_append, List.cons_append, List.cons.injEq, List.cons.injEq] at hrest
      obtain ⟨rfl, rfl, -⟩ := hrest
      exact absurd ⟨k', a, by simp [hkey]⟩ hk

/-- A marker in what follows a code is a part of the rest, or the rest completes it with none or one
    of the underscores that a marker begins with. -/
theorem infix_or_completes {s y r : List Char} {p : Operator}
    (h : '_' :: '_' :: s = y ++ (marker p ++ r)) :
    marker p <:+: s ∨ s = p.code.toList ++ '_' :: '_' :: r ∨
      s = '_' :: (p.code.toList ++ '_' :: '_' :: r) := by
  -- `y` says how many of the two underscores the marker leaves alone.
  match y with
  | [] =>
    rw [List.nil_append, marker_append, List.cons.injEq, List.cons.injEq] at h
    exact .inr (.inl h.2.2)
  | [c] =>
    rw [marker_append, List.cons_append, List.nil_append, List.cons.injEq, List.cons.injEq] at h
    exact .inr (.inr h.2.2)
  | c :: d :: y =>
    rw [List.cons_append, List.cons_append, List.cons.injEq, List.cons.injEq] at h
    exact .inl ⟨y, r, by simp [h.2.2]⟩

end FilterQuery.Suffix
