/-! # Tables in insertion order

A table holds each key once. A new key goes to the end; a key that is already there keeps its place
and takes the new value. `Table.get?` is the view of a table as a finite function, `Table.entries`
the view as a list:

* `Table.get?_insert`     reading after a write
* `Table.keys_insert`     the keys after a write
* `Table.get?_eq_some_iff`  the two views agree
-/

namespace FilterQuery

/-! ## Lists of pairs -/

namespace Pairs

variable {α β : Type} [DecidableEq α]

/-- Gives `k` the value `v`: in its place if the key is there, at the end if it is new. -/
def put (k : α) (v : β) : List (α × β) → List (α × β)
  | [] => [(k, v)]
  | (j, w) :: es => if j = k then (k, v) :: es else (j, w) :: put k v es

/-- The value of the first pair with the key `k`. -/
def get? (k : α) : List (α × β) → Option β
  | [] => none
  | (j, w) :: es => if j = k then some w else get? k es

/-- A key that is there keeps its place among the keys, a new one goes to the end. -/
theorem keys_put (k : α) (v : β) (es : List (α × β)) :
    (put k v es).map Prod.fst =
      if k ∈ es.map Prod.fst then es.map Prod.fst else es.map Prod.fst ++ [k] := by
  induction es with
  | nil => simp [put]
  | cons e es ih =>
    obtain ⟨j, w⟩ := e
    -- The key is the one in front, a later one, or new.
    by_cases h : j = k
    · simp [put, h]
    · by_cases hk : k ∈ es.map Prod.fst
      · rw [if_pos hk] at ih
        simp only [put, h, if_false, List.map_cons, ih, List.mem_cons, Ne.symm h, false_or, hk,
          if_true]
      · rw [if_neg hk] at ih
        simp only [put, h, if_false, List.map_cons, ih, List.mem_cons, Ne.symm h, false_or, hk,
          List.cons_append]

/-- No write makes a key stand twice. -/
theorem nodup_keys_put (k : α) (v : β) {es : List (α × β)} (h : (es.map Prod.fst).Nodup) :
    ((put k v es).map Prod.fst).Nodup := by
  rw [keys_put]
  split
  · exact h
  · rename_i hk
    exact List.nodup_append.2 ⟨h, by simp, fun a ha b hb => by
      rintro rfl
      exact hk (by simpa [List.mem_singleton.1 hb] using ha)⟩

/-- A new pair goes to the end. -/
theorem put_of_notMem {k : α} {es : List (α × β)} (h : k ∉ es.map Prod.fst) (v : β) :
    put k v es = es ++ [(k, v)] := by
  induction es with
  | nil => rfl
  | cons e es ih =>
    rw [List.map_cons, List.mem_cons, not_or] at h
    obtain ⟨hne, hnew⟩ := h
    -- A new key passes every key that is there.
    rw [put, if_neg (Ne.symm hne), ih hnew]
    rfl

/-- After a write there is the pair that was written, and pairs that were there before. -/
theorem mem_put {k : α} {v : β} {es : List (α × β)} {e : α × β} (h : e ∈ put k v es) :
    e = (k, v) ∨ e ∈ es := by
  induction es with
  | nil => exact .inl (by simpa [put] using h)
  | cons d es ih =>
    obtain ⟨j, w⟩ := d
    rw [put] at h
    split at h
    · rcases List.mem_cons.1 h with h | h
      · exact .inl h
      · exact .inr (List.mem_cons_of_mem _ h)
    · rcases List.mem_cons.1 h with h | h
      · exact .inr (h ▸ List.mem_cons_self ..)
      · exact (ih h).imp_right (List.mem_cons_of_mem _)

/-- A pair that is written is read at its key, and every other key is read as before. -/
theorem get?_put (k j : α) (v : β) (es : List (α × β)) :
    get? j (put k v es) = if j = k then some v else get? j es := by
  induction es with
  | nil => simp [put, get?, eq_comm]
  | cons e es ih =>
    obtain ⟨i, w⟩ := e
    -- The key that is written, the key that is read and the key in front may agree in any way.
    by_cases hi : i = k
    · subst hi
      by_cases hj : i = j
      · simp [put, get?, hj]
      · simp [put, get?, hj, Ne.symm hj]
    · by_cases hj : i = j
      · subst hj
        simp [put, get?, hi]
      · simp [put, get?, hi, hj, ih]

/-- The value of a key stands beside it in the list. -/
theorem mem_keys_of_get? {k : α} {v : β} {es : List (α × β)} (h : get? k es = some v) :
    (k, v) ∈ es := by
  induction es with
  | nil => simp [get?] at h
  | cons e es ih =>
    obtain ⟨j, w⟩ := e
    by_cases hj : j = k
    · simp_all [get?]
    · exact List.mem_cons_of_mem _ (ih (by simpa [get?, hj] using h))

/-- If no key stands twice, the value beside a key is its value. -/
theorem get?_of_mem {k : α} {v : β} {es : List (α × β)} (hn : (es.map Prod.fst).Nodup)
    (h : (k, v) ∈ es) : get? k es = some v := by
  induction es with
  | nil => simp at h
  | cons e es ih =>
    obtain ⟨j, w⟩ := e
    simp only [List.map_cons, List.nodup_cons] at hn
    rcases List.mem_cons.1 h with h | h
    · simp only [Prod.mk.injEq] at h
      simp [get?, h.1, h.2]
    · -- A later pair with this key has another one in front of it.
      have hj : j ≠ k := by
        rintro rfl
        exact hn.1 (List.mem_map.2 ⟨_, h, rfl⟩)
      simpa [get?, hj] using ih hn.2 h

/-- A key has no value exactly when it is not there. -/
theorem get?_eq_none_iff {k : α} {es : List (α × β)} :
    get? k es = none ↔ k ∉ es.map Prod.fst := by
  induction es with
  | nil => simp [get?]
  | cons e es ih =>
    obtain ⟨j, w⟩ := e
    by_cases hj : j = k
    · simp [get?, hj]
    · simp [get?, hj, ih, Ne.symm hj]

end Pairs

/-! ## Tables -/

/-- A list of pairs with distinct keys. -/
structure Table (α β : Type) where
  /-- The pairs, oldest key first. -/
  entries : List (α × β)
  nodup_keys : (entries.map Prod.fst).Nodup

namespace Table

variable {α β : Type}

@[ext] theorem ext {a b : Table α β} (h : a.entries = b.entries) : a = b := by
  cases a
  cases b
  simp_all

instance [DecidableEq α] [DecidableEq β] : DecidableEq (Table α β) := fun a b =>
  decidable_of_iff (a.entries = b.entries) ⟨ext, congrArg entries⟩

/-- The table without entries. -/
def empty : Table α β := ⟨[], by simp⟩

/-- The keys, oldest first. -/
def keys (t : Table α β) : List α := t.entries.map Prod.fst

/-- The number of keys. -/
def size (t : Table α β) : Nat := t.entries.length

/-- There is no entry. -/
def isEmpty (t : Table α β) : Bool := t.entries.isEmpty

/-- The same keys in the same order, with every value passed through `f`. -/
def map {γ : Type} (f : β → γ) (t : Table α β) : Table α γ :=
  ⟨t.entries.map fun (k, v) => (k, f v), by
    have : (t.entries.map fun (k, v) => (k, f v)).map Prod.fst = t.entries.map Prod.fst := by simp
    rw [this]
    exact t.nodup_keys⟩

variable [DecidableEq α]

/-- Gives `k` the value `v`: in its place if the key is there, at the end if it is new. -/
def insert (t : Table α β) (k : α) (v : β) : Table α β :=
  ⟨Pairs.put k v t.entries, Pairs.nodup_keys_put k v t.nodup_keys⟩

/-- The value of a key. -/
def get? (t : Table α β) (k : α) : Option β :=
  Pairs.get? k t.entries

/-- The table that results from inserting the pairs from left to right. -/
def ofList (es : List (α × β)) : Table α β :=
  es.foldl (fun t (k, v) => t.insert k v) empty

@[simp] theorem get?_empty (k : α) : (empty : Table α β).get? k = none := rfl

/-- A value that is written is read at its key, and nothing else changes. -/
theorem get?_insert (t : Table α β) (k j : α) (v : β) :
    (t.insert k v).get? j = if j = k then some v else t.get? j :=
  Pairs.get?_put k j v t.entries

/-- The keys after a write. -/
theorem keys_insert (t : Table α β) (k : α) (v : β) :
    (t.insert k v).keys = if k ∈ t.keys then t.keys else t.keys ++ [k] :=
  Pairs.keys_put k v t.entries

/-- The value of a key is the one that its entry holds. -/
theorem get?_eq_some_iff {t : Table α β} {k : α} {v : β} :
    t.get? k = some v ↔ (k, v) ∈ t.entries :=
  ⟨Pairs.mem_keys_of_get?, Pairs.get?_of_mem t.nodup_keys⟩

/-- The keys are those that have a value. -/
theorem mem_keys_iff {t : Table α β} {k : α} : k ∈ t.keys ↔ ∃ v, t.get? k = some v := by
  simp [keys, get?_eq_some_iff]

/-- The two tables hold the same pairs, in whatever order. -/
def Same (a b : Table α β) : Prop :=
  a.size = b.size ∧ ∀ e ∈ a.entries, b.get? e.1 = some e.2

instance [DecidableEq β] (a b : Table α β) : Decidable (Same a b) :=
  inferInstanceAs (Decidable (_ ∧ _))

end Table

end FilterQuery
