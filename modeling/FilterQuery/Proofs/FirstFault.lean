import Mathlib.Data.List.Forall2

/-!
# The first fault of a list

Where a list is read item by item, the first item at fault decides the error, and without one every item
has a result of its own. This file says so on the items alone, whatever the fold or the map is.

## Key results

- `not_firstFault_iff`: a list without a first fault has no fault
- `foldlM_eq_error_iff`: a fold stops at the first item at fault
- `findSome?_eq_some_iff`: checks in a row report the first item at fault
- `mapM_eq_error_iff`, `mapM_eq_ok_iff`: reading the items one by one
- `exists_mapM_eq_ok_iff`: all items can be read, or the list cannot
-/

namespace FilterQuery

/-- The error of the first item that is at fault. -/
inductive FirstFault {α ε : Type} (Fault : α → ε → Prop) : List α → ε → Prop where
  | here {a : α} {as : List α} {e : ε} (h : Fault a e) : FirstFault Fault (a :: as) e
  | later {a : α} {as : List α} {e : ε} (ha : ∀ e, ¬ Fault a e) (h : FirstFault Fault as e) :
    FirstFault Fault (a :: as) e

section

variable {α β ε σ : Type} {Fault : α → ε → Prop}

/-- The first fault is that of the first item, or this one has none and it is that of the others. -/
theorem firstFault_cons_iff {a : α} {as : List α} {e : ε} :
    FirstFault Fault (a :: as) e ↔
      Fault a e ∨ (∀ e, ¬ Fault a e) ∧ FirstFault Fault as e := by
  constructor
  · intro h
    cases h with
    | here h => exact .inl h
    | later ha h => exact .inr ⟨ha, h⟩
  · rintro (h | ⟨ha, h⟩)
    · exact .here h
    · exact .later ha h

/-- A list without a first fault has no fault. -/
theorem not_firstFault_iff {as : List α} :
    (∀ e, ¬ FirstFault Fault as e) ↔ ∀ a ∈ as, ∀ e, ¬ Fault a e := by
  -- A fault of the first item is a first fault; behind an item without one the first fault is a
  -- later one.
  induction as with
  | nil => exact ⟨fun _ => by simp, fun _ _ => nofun⟩
  | cons a as ih =>
    simp only [List.forall_mem_cons, ← ih]
    constructor
    · intro h
      have ha : ∀ e, ¬ Fault a e := fun e he => h e (.here he)
      exact ⟨ha, fun e he => h e (.later ha he)⟩
    · rintro ⟨ha, h⟩ e he
      cases he with
      | here he => exact ha e he
      | later _ he => exact h e he

theorem exists_firstFault {as : List α} (h : ¬ ∀ a ∈ as, ∀ e, ¬ Fault a e) :
    ∃ e, FirstFault Fault as e := by
  rw [← not_firstFault_iff] at h
  exact Classical.not_forall_not.1 h

/-- A fold stops at the first item at fault, if it depends on the item alone whether the fold goes
    on. -/
theorem foldlM_eq_error_iff {f : σ → α → Except ε σ}
    (hf : ∀ s a e, f s a = .error e ↔ Fault a e) (s : σ) (as : List α) (e : ε) :
    as.foldlM f s = .error e ↔ FirstFault Fault as e := by
  induction as generalizing s with
  | nil => exact ⟨nofun, nofun⟩
  | cons a as ih =>
    rw [List.foldlM_cons, firstFault_cons_iff, ← hf s]
    -- The item stops the fold or not, and by `hf` the state has no say in that.
    cases hstep : f s a with
    | error e' =>
      have ha : Fault a e' := (hf s a e').1 hstep
      have hgoes : ¬ ∀ e, ¬ Fault a e := fun h => h e' ha
      simp [bind, Except.bind, hgoes]
    | ok s' =>
      have hgoes : ∀ e, ¬ Fault a e := by
        intro e' he
        rw [← hf s, hstep] at he
        exact nomatch he
      simp [bind, Except.bind, ih s', hgoes]

/-! ## Checks in a row -/

/-- A check in front of others that report the first fault of a list. -/
theorem or_eq_some_iff {a : α} {as : List α} {check rest : Option ε}
    (ha : ∀ e, check = some e ↔ Fault a e) (has : ∀ e, rest = some e ↔ FirstFault Fault as e) (e : ε) :
    check.or rest = some e ↔ FirstFault Fault (a :: as) e := by
  have hnone : check = none ↔ ∀ e, ¬ Fault a e := by
    simp only [Option.eq_none_iff_forall_ne_some, ne_eq, ha]
  rw [Option.or_eq_some_iff, firstFault_cons_iff, ha, hnone, has]

/-- Items that are checked from the first to the last. -/
theorem findSome?_eq_some_iff {check : α → Option ε} (h : ∀ a e, check a = some e ↔ Fault a e)
    (as : List α) : ∀ e, as.findSome? check = some e ↔ FirstFault Fault as e := by
  -- Each item is a check in front of the others.
  induction as with
  | nil => exact fun _ => ⟨nofun, nofun⟩
  | cons a as ih =>
    intro e
    rw [List.findSome?_cons, ← or_eq_some_iff (h a) ih]
    cases check a <;> rfl

/-! ## Reading the items one by one -/

/-- An item at fault stops the reading, and only the first one is reported. -/
theorem mapM_eq_error_iff {f : α → Except ε β} (hf : ∀ a e, f a = .error e ↔ Fault a e)
    (as : List α) (e : ε) : as.mapM f = .error e ↔ FirstFault Fault as e := by
  induction as with
  | nil => exact ⟨nofun, nofun⟩
  | cons a as ih =>
    rw [List.mapM_cons, firstFault_cons_iff, ← hf, ← ih]
    cases ha : f a with
    | error e' =>
      have hfault : ¬ ∀ e, ¬ Fault a e := fun h => h e' ((hf a e').1 ha)
      simp [bind, Except.bind, hfault]
    | ok b =>
      have hfault : ∀ e, ¬ Fault a e := by
        intro e' he
        rw [← hf, ha] at he
        exact nomatch he
      -- The error of the tail is the error of the whole list; a result of the tail is none.
      cases as.mapM f <;> simp [bind, Except.bind, pure, Except.pure, hfault]

/-- Without a fault every item is read into a result of its own, in the order of the items. -/
theorem mapM_eq_ok_iff {f : α → Except ε β} {R : α → β → Prop}
    (hf : ∀ a b, f a = .ok b ↔ R a b) (as : List α) (bs : List β) :
    as.mapM f = .ok bs ↔ List.Forall₂ R as bs := by
  induction as generalizing bs with
  | nil =>
    rw [List.mapM_nil, List.forall₂_nil_left_iff]
    simp [pure, Except.pure, eq_comm]
  | cons a as ih =>
    rw [List.mapM_cons, List.forall₂_cons_left_iff]
    simp only [← hf, ← ih]
    -- A first item without a result leaves none for the list.
    cases f a with
    | error e => simp [bind, Except.bind]
    | ok b =>
      cases as.mapM f with
      | error e => simp [bind, Except.bind]
      | ok bs' => simp [bind, Except.bind, pure, Except.pure, eq_comm]

/-- What every reading of an item gives holds of all results. -/
theorem forall_mem_of_forall₂ {R : α → β → Prop} {P : β → Prop} {as : List α} {bs : List β}
    (h : List.Forall₂ R as bs) (hP : ∀ a ∈ as, ∀ b, R a b → P b) : ∀ b ∈ bs, P b := by
  induction h with
  | nil => simp
  | @cons a b as bs hab _ ih =>
    rw [List.forall_mem_cons] at hP ⊢
    exact ⟨hP.1 b hab, ih hP.2⟩

theorem exists_ok_iff {x : Except ε β} : (∃ b, x = .ok b) ↔ ∀ e, x ≠ .error e := by
  cases x <;> simp

/-- Either all items can be read, or the list cannot. -/
theorem exists_mapM_eq_ok_iff {f : α → Except ε β} {as : List α} :
    (∃ bs, as.mapM f = .ok bs) ↔ ∀ a ∈ as, ∃ b, f a = .ok b := by
  -- Not to fail is to have no first fault, for any notion of fault that fits.
  simp only [exists_ok_iff, ne_eq, mapM_eq_error_iff fun _ _ => Iff.rfl]
  exact not_firstFault_iff

end

end FilterQuery
