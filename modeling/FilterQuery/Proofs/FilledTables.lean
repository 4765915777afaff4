import FilterQuery.Table
import Mathlib.Data.Finset.Card
import Mathlib.Data.List.Induction

/-!
# Tables that are filled by writes

A table that is filled from the left to the right keeps a key where it was first written and the value
that was written last, so place and value of an entry may come from different writes.
`Table.FilledBy` says this on the list of writes alone. Both parts are kept by a single write, which is
the step of the inductions from the end of the list.

## Key results

- `Table.keys_ofList`: the keys, in the order of their first writes
- `Table.get?_ofList`: the values, each from the last write of its key
- `Table.filledBy_ofList`: what a list of writes leaves
- `Table.FilledBy.unique`: the writes decide the table, the order of its entries included
- `Table.entries_ofList`: pairs with distinct keys are held as they are
-/

namespace FilterQuery

variable {α β : Type} [DecidableEq α]

/-- A further element is new, or it repeats an earlier one. -/
private theorem eraseDups_append_singleton (ks : List α) (k : α) :
    (ks ++ [k]).eraseDups = if k ∈ ks then ks.eraseDups else ks.eraseDups ++ [k] := by
  rw [List.eraseDups_append, List.cons_removeAll, List.nil_removeAll]
  by_cases hk : k ∈ ks
  · simp [hk]
  · simp [hk, List.eraseDups_cons]

namespace Table

/-- A table that holds what the writes leave, from the first to the last. -/
structure FilledBy (t : Table α β) (writes : List (α × β)) : Prop where
  /-- The keys stand in the order of their first writes. -/
  keys : t.keys = (writes.map Prod.fst).eraseDups
  /-- No key stands twice. -/
  nodup : t.keys.Nodup
  /-- A key has the value of its last write. -/
  get? : ∀ k, t.get? k = Pairs.get? k writes.reverse
  /-- A key has no value when it was not written. -/
  get?_eq_none : ∀ k, t.get? k = none ↔ k ∉ writes.map Prod.fst
  /-- There are as many entries as distinct keys. -/
  size : t.size = (writes.map Prod.fst).toFinset.card

variable {es : List (α × β)} {t u : Table α β}

private theorem ofList_append_singleton (es : List (α × β)) (e : α × β) :
    ofList (es ++ [e]) = (ofList es).insert e.1 e.2 := by
  rw [ofList, List.foldl_append]
  rfl

/-- The keys of a filled table stand in the order of their first writes. -/
theorem keys_ofList (es : List (α × β)) : (ofList es).keys = (es.map Prod.fst).eraseDups := by
  -- Induction from the end: the last write is the one that meets the finished table.
  induction es using List.reverseRecOn with
  | nil => rfl
  | append_singleton es e ih =>
    rw [ofList_append_singleton, keys_insert, ih, List.map_append, List.map_singleton,
      eraseDups_append_singleton]
    simp only [List.mem_eraseDups]

/-- The keys of a filled table are those that were written. -/
theorem mem_keys_ofList {k : α} : k ∈ (ofList es).keys ↔ k ∈ es.map Prod.fst := by
  rw [keys_ofList, List.mem_eraseDups]

/-- A key of a filled table has the value of its last write. -/
theorem get?_ofList (es : List (α × β)) (k : α) : (ofList es).get? k = Pairs.get? k es.reverse := by
  induction es using List.reverseRecOn with
  | nil => rfl
  | append_singleton es e ih =>
    -- The last write is the first that is met from the end.
    rw [ofList_append_singleton, get?_insert, ih, List.reverse_append, List.reverse_singleton,
      List.singleton_append, Pairs.get?]
    simp only [eq_comm]

/-- What a list of writes leaves. -/
theorem filledBy_ofList (writes : List (α × β)) : (ofList writes).FilledBy writes where
  keys := keys_ofList writes
  nodup := (ofList writes).nodup_keys
  get? := get?_ofList writes
  get?_eq_none k := by
    rw [get?_ofList, Pairs.get?_eq_none_iff, List.map_reverse, List.mem_reverse]
  size := by
    -- The keys are those that were written, each once, so counting them counts the set.
    have hkeys : (ofList writes).keys.toFinset = (writes.map Prod.fst).toFinset := by
      ext k
      rw [List.mem_toFinset, List.mem_toFinset, mem_keys_ofList]
    have hnodup : (ofList writes).keys.Nodup := (ofList writes).nodup_keys
    rw [← hkeys, List.toFinset_card_of_nodup hnodup, Table.keys, List.length_map, Table.size]

/-- The writes decide the table, the order of its entries included. -/
theorem FilledBy.unique (ht : t.FilledBy es) (hu : u.FilledBy es) : t = u := by
  -- An entry is a key with its value.
  have hentries : ∀ t : Table α β, t.entries = t.keys.filterMap fun k => (t.get? k).map (k, ·) := by
    intro t
    rw [Table.keys, List.filterMap_map]
    have hvalue : ∀ e ∈ t.entries, ((fun k => (t.get? k).map (k, ·)) ∘ Prod.fst) e = some e := by
      intro e he
      simp [get?_eq_some_iff.2 he]
    rw [List.filterMap_congr hvalue, List.filterMap_some]
  apply ext
  rw [hentries t, hentries u, ht.keys, hu.keys]
  simp only [ht.get?, hu.get?]

/-- A table of pairs with distinct keys holds them as they are. -/
theorem entries_ofList (h : (es.map Prod.fst).Nodup) : (ofList es).entries = es := by
  induction es using List.reverseRecOn with
  | nil => rfl
  | append_singleton es e ih =>
    rw [List.map_append, List.map_singleton, List.nodup_append] at h
    obtain ⟨hes, -, hdisjoint⟩ := h
    -- The last pair is new to the table, so it goes to the end.
    have hnew : e.1 ∉ (ofList es).keys := by
      rw [mem_keys_ofList]
      exact fun hk => hdisjoint e.1 hk e.1 (List.mem_singleton_self e.1) rfl
    calc (ofList (es ++ [e])).entries
        = Pairs.put e.1 e.2 (ofList es).entries := by rw [ofList_append_singleton]; rfl
      _ = es ++ [e] := by rw [Pairs.put_of_notMem hnew, ih hes]

end Table

end FilterQuery
