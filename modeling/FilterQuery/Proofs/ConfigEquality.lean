import FilterQuery.Proofs.Narrowing
import Mathlib.Data.List.Nodup
import Mathlib.Data.List.Perm.Subperm

/-!
# Configurations that are the same

`Config.Same` compares lists in order and mappings without order. Searches see the order of a mapping in
one place only: the configured conditions stand in the tree as they stand in their filters. So
configurations that are the same do not give the same trees; `Config.SameTree` is what their trees
have in common, and it is enough for the trees to keep the same records.

## Key results

- `Table.same_iff_perm`: tables are the same when the entries of one are a permutation of the other's
- `Config.same_equivalence`: being the same is an equivalence
- `Config.Same.search_eq_error_iff`, `Config.Same.order_eq`, `Config.Same.sameTree_filter`: searches
  under configurations that are the same
- `Config.SameTree.holds_eq`: what these trees keep
- `Draft.Same.sameResult_build`: drafts that are the same are accepted alike
-/

namespace FilterQuery

/-! ## Tables -/

/-- The order of pairs with distinct keys does not matter to reading them. -/
theorem Pairs.get?_eq_of_perm {α β : Type} [DecidableEq α] {es fs : List (α × β)} (h : es.Perm fs)
    (hn : (es.map Prod.fst).Nodup) (k : α) : get? k es = get? k fs := by
  have hkeys : (es.map Prod.fst).Perm (fs.map Prod.fst) := h.map Prod.fst
  cases hv : get? k es with
  | some v =>
    have hmem : (k, v) ∈ fs := h.mem_iff.1 (mem_keys_of_get? hv)
    exact (get?_of_mem (hkeys.nodup_iff.1 hn) hmem).symm
  | none =>
    have hk : k ∉ fs.map Prod.fst := fun hk => get?_eq_none_iff.1 hv (hkeys.mem_iff.2 hk)
    exact (get?_eq_none_iff.2 hk).symm

namespace Table

variable {α β : Type} [DecidableEq α] {a b : Table α β}

/-- Tables are the same when the entries of one are a permutation of the other's. -/
theorem same_iff_perm : a.Same b ↔ a.entries.Perm b.entries := by
  constructor
  · rintro ⟨hsize, hentries⟩
    have hnodup : a.entries.Nodup := List.Nodup.of_map _ a.nodup_keys
    have hsubset : a.entries ⊆ b.entries := fun e he => get?_eq_some_iff.1 (hentries e he)
    -- As many distinct entries in `b` as `b` has are all that it has.
    exact (List.subperm_of_subset hnodup hsubset).perm_of_length_le (Nat.le_of_eq hsize.symm)
  · intro h
    exact ⟨h.length_eq, fun e he => get?_eq_some_iff.2 (h.mem_iff.1 he)⟩

theorem Same.get?_eq (h : a.Same b) (k : α) : a.get? k = b.get? k :=
  Pairs.get?_eq_of_perm (same_iff_perm.1 h) a.nodup_keys k

end Table

/-! ## Filters -/

section

variable {f g h : Option FilterMap}

theorem SameFilter.refl (f : Option FilterMap) : SameFilter f f := by
  cases f with
  | none => trivial
  | some m => exact Table.same_iff_perm.2 (.refl _)

theorem SameFilter.symm (hfg : SameFilter f g) : SameFilter g f := by
  cases f <;> cases g
  case none.none => trivial
  case some.some m n => exact Table.same_iff_perm.2 (Table.same_iff_perm.1 hfg).symm
  -- A filter that is set is not the same as one that is not.
  all_goals exact hfg.elim

theorem SameFilter.trans (hfg : SameFilter f g) (hgh : SameFilter g h) : SameFilter f h := by
  cases f <;> cases g <;> cases h
  case none.none.none => trivial
  case some.some.some =>
    exact Table.same_iff_perm.2 ((Table.same_iff_perm.1 hfg).trans (Table.same_iff_perm.1 hgh))
  all_goals first | exact hfg.elim | exact hgh.elim

/-- Filters that are the same give the same comparisons, though not in the same order. -/
private theorem SameFilter.perm_exactComparisons (hfg : SameFilter f g) :
    (exactComparisons f).Perm (exactComparisons g) := by
  cases f <;> cases g
  case none.none => exact .refl _
  case some.some m n =>
    rw [exactComparisons_some, exactComparisons_some]
    -- Each entry gives one comparison.
    exact (Table.same_iff_perm.1 hfg).map _
  all_goals exact hfg.elim

/-- Whether a filter names the empty field does not depend on the order of its conditions. -/
private theorem SameFilter.soundFilter (hfg : SameFilter f g) (hf : SoundFilter f) : SoundFilter g := by
  cases f <;> cases g
  case none.none => exact hf
  case some.some m n =>
    have hkeys : m.keys.Perm n.keys := (Table.same_iff_perm.1 hfg).map Prod.fst
    intro k hk
    obtain rfl : n = k := Option.mem_some_iff.1 hk
    exact fun hempty => hf m rfl (hkeys.mem_iff.2 hempty)
  all_goals exact hfg.elim

end

/-! ## Drafts -/

/-- The drafts agree in every option, up to the order of entries. -/
structure Draft.Same (a b : Draft) : Prop where
  mapping : a.mapping.Same b.mapping
  forcedFilter : SameFilter a.forcedFilter b.forcedFilter
  defaultFilter : SameFilter a.defaultFilter b.defaultFilter
  defaultOrder : a.defaultOrder = b.defaultOrder
  caseSensitive : a.caseSensitive = b.caseSensitive
  grammar : a.grammar = b.grammar

/-- Configurations are the same when their drafts are: the proof of soundness has no part in it. -/
theorem Config.same_iff {a b : Config} : a.Same b ↔ a.toDraft.Same b.toDraft :=
  ⟨fun ⟨hm, hf, hd, ho, hc, hg⟩ => ⟨hm, hf, hd, ho, hc, hg⟩,
    fun ⟨hm, hf, hd, ho, hc, hg⟩ => ⟨hm, hf, hd, ho, hc, hg⟩⟩

/-- Both are refused, or both are accepted as configurations that are the same. -/
inductive SameResult : Except ConfigError Config → Except ConfigError Config → Prop where
  | refused (e f : ConfigError) : SameResult (.error e) (.error f)
  | accepted {a b : Config} (h : a.Same b) : SameResult (.ok a) (.ok b)

namespace Draft

variable {a b c : Draft}

theorem Same.refl (a : Draft) : a.Same a :=
  ⟨Table.same_iff_perm.2 (.refl _), .refl _, .refl _, rfl, rfl, rfl⟩

theorem Same.symm (h : a.Same b) : b.Same a :=
  ⟨Table.same_iff_perm.2 (Table.same_iff_perm.1 h.mapping).symm, h.forcedFilter.symm,
    h.defaultFilter.symm, h.defaultOrder.symm, h.caseSensitive.symm, h.grammar.symm⟩

theorem Same.trans (h : a.Same b) (h' : b.Same c) : a.Same c :=
  ⟨Table.same_iff_perm.2 ((Table.same_iff_perm.1 h.mapping).trans (Table.same_iff_perm.1 h'.mapping)),
    h.forcedFilter.trans h'.forcedFilter, h.defaultFilter.trans h'.defaultFilter,
    h.defaultOrder.trans h'.defaultOrder, h.caseSensitive.trans h'.caseSensitive,
    h.grammar.trans h'.grammar⟩

/-- Soundness is a matter of the entries, not of their order. -/
theorem Same.sound (h : a.Same b) (ha : a.Sound) : b.Sound := by
  have hentries : a.mapping.entries.Perm b.mapping.entries := Table.same_iff_perm.1 h.mapping
  refine ⟨?_, ?_, h.forcedFilter.soundFilter ha.forcedFilter,
    h.defaultFilter.soundFilter ha.defaultFilter, h.defaultOrder ▸ ha.defaultOrder⟩
  · -- A table without entries is a permutation of itself only.
    intro hnil
    rw [hnil] at hentries
    exact ha.mapping_ne_nil hentries.eq_nil
  · exact fun e he => ha.entries e (hentries.mem_iff.2 he)

/-- Drafts that are the same are both accepted, as configurations that are the same, or both
    refused. -/
theorem Same.sameResult_build (h : a.Same b) : SameResult a.build b.build := by
  by_cases ha : a.Sound
  · have hb : b.Sound := h.sound ha
    rw [build_eq_ok_iff.2 (rfl : (⟨a, ha⟩ : Config).toDraft = a),
      build_eq_ok_iff.2 (rfl : (⟨b, hb⟩ : Config).toDraft = b)]
    exact .accepted (Config.same_iff.2 h)
  · -- The defects need not be the same: the first entry at fault depends on the order.
    have hb : ¬ b.Sound := fun hb => ha (h.symm.sound hb)
    obtain ⟨e, he⟩ := Option.ne_none_iff_exists'.1 (mt firstDefect_eq_none_iff.1 ha)
    obtain ⟨f, hf⟩ := Option.ne_none_iff_exists'.1 (mt firstDefect_eq_none_iff.1 hb)
    rw [build_eq_error_iff.2 he, build_eq_error_iff.2 hf]
    exact .refused e f

end Draft

/-! ## Searches -/

namespace Config

variable {a b : Config}

/-- Being the same configuration is an equivalence, as it is for drafts. -/
theorem same_equivalence : Equivalence Config.Same where
  refl a := same_iff.2 (.refl a.toDraft)
  symm h := same_iff.2 (same_iff.1 h).symm
  trans h h' := same_iff.2 ((same_iff.1 h).trans (same_iff.1 h'))

/-- The trees that two configurations make of a filter string, or of its absence, when they are alike
    up to the order of the configured conditions: the nodes of the client are the same, in the same
    order. -/
inductive SameTree (a b : Config) : Option String → Filter → Filter → Prop where
  | standing
    (hforced : (exactComparisons a.forcedFilter).Perm (exactComparisons b.forcedFilter))
    (hdefault : (exactComparisons a.defaultFilter).Perm (exactComparisons b.defaultFilter)) :
    SameTree a b none
      (.all (exactComparisons a.forcedFilter ++ exactComparisons a.defaultFilter))
      (.all (exactComparisons b.forcedFilter ++ exactComparisons b.defaultFilter))
  | asked {raw : String} (nodes : List Filter)
    (hforced : (exactComparisons a.forcedFilter).Perm (exactComparisons b.forcedFilter)) :
    SameTree a b (some raw) (.flat (exactComparisons a.forcedFilter) nodes)
      (.flat (exactComparisons b.forcedFilter) nodes)

/-- Such trees keep the same records. -/
theorem SameTree.holds_eq {raw : Option String} {f g : Filter} (h : SameTree a b raw f g)
    (truth : Comparison → Bool) : f.holds truth = g.holds truth := by
  cases h with
  | standing hforced hdefault =>
    -- A conjunction asks for all of its members, in whatever order they stand.
    rw [Filter.holds_all, Filter.holds_all]
    exact (hforced.append hdefault).all_eq
  | asked nodes hforced =>
    rw [Filter.holds_flat, Filter.holds_flat]
    exact (hforced.append_right nodes).all_eq

/-- Orders see of a mapping only what it says of each key. -/
theorem order_congr (hmapping : ∀ key, a.mapping.get? key = b.mapping.get? key)
    (horder : a.defaultOrder = b.defaultOrder) : a.order = b.order := by
  have hterm : a.sortTerm = b.sortTerm := by
    funext token
    simp only [sortTerm, sortField, hmapping]
  funext raw
  simp only [order, standingOrder, hterm, horder]

/-- The nodes of clauses see of a mapping only what it says of each key, and heed the case. -/
theorem node?_congr (hmapping : ∀ key, a.mapping.get? key = b.mapping.get? key)
    (hcase : a.caseSensitive = b.caseSensitive) : a.node? = b.node? := by
  funext clause
  simp only [node?, hmapping, hcase]

/-- Configurations that are the same order alike, errors included. -/
theorem Same.order_eq (h : a.Same b) : a.order = b.order := by
  have hsame := same_iff.1 h
  exact order_congr hsame.mapping.get?_eq hsame.defaultOrder

/-- Configurations that are the same read the same nodes from a filter string, in the same order. -/
private theorem Same.nodes_eq (h : a.Same b) : a.nodes = b.nodes := by
  have hsame := same_iff.1 h
  -- The mapping is only asked for single keys, and the answers are the same.
  have hnode : a.node? = b.node? := node?_congr hsame.mapping.get?_eq hsame.caseSensitive
  have htoken : a.tokenNode? = b.tokenNode? := by
    funext token
    simp only [tokenNode?, hnode, hsame.grammar]
  funext raw
  simp only [nodes, htoken, hsame.grammar]

/-- Configurations that are the same give trees that differ by the order of the configured conditions
    at most. -/
theorem Same.sameTree_filter (h : a.Same b) (raw : Option String) :
    SameTree a b raw (a.filter raw) (b.filter raw) := by
  have hsame := same_iff.1 h
  have hforced := hsame.forcedFilter.perm_exactComparisons
  cases raw with
  | none =>
    rw [filter_none_eq_all, filter_none_eq_all]
    exact .standing hforced hsame.defaultFilter.perm_exactComparisons
  | some raw =>
    -- The nodes of the client stand in both trees as they are, so they are taken out first.
    rw [filter_some_eq_flat, filter_some_eq_flat, h.nodes_eq]
    exact .asked (b.nodes raw) hforced

/-- The answer to a request is the tree of its filter string, if the sort string can be resolved. -/
theorem search_eq_ok_iff {c : Config} {request : Request} {q : Query} :
    c.search request = .ok q ↔
      q.filter = c.filter request.filter ∧ c.order request.sort = .ok q.order := by
  rw [search]
  -- The sort string is resolved first; after that nothing can fail.
  cases c.order request.sort with
  | error e => simp [bind, Except.bind]
  | ok order =>
    obtain ⟨filter, order'⟩ := q
    simp [bind, Except.bind, pure, Except.pure, eq_comm]

/-- A request is refused for its sort string only, so with the error of the order. -/
theorem search_eq_error_iff {c : Config} {request : Request} {e : SortError} :
    c.search request = .error e ↔ c.order request.sort = .error e := by
  rw [search]
  cases c.order request.sort <;> simp [bind, Except.bind, pure, Except.pure]

/-- Configurations that are the same refuse the same requests with the same errors. -/
theorem Same.search_eq_error_iff (h : a.Same b) (request : Request) (e : SortError) :
    a.search request = .error e ↔ b.search request = .error e := by
  rw [Config.search_eq_error_iff, Config.search_eq_error_iff, h.order_eq]

end Config

end FilterQuery
