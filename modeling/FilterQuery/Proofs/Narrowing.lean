import FilterQuery.Filter.Truth
import FilterQuery.Proofs.FilterTree

/-!
# Filter strings only narrow a search

Under a truth assignment to comparisons, the tree of a filter string holds exactly when every
forced condition holds and every token's node does. Hence a filter string with more tokens keeps
no more, the order and the repetition of tokens have no meaning, and no filter string escapes a
forced condition.

## Key results

- `Config.holds_filter_some`: the truth of a tree is decided token by token
- `Config.filter_implies_of_tokens_subset`: more tokens keep no more
- `Config.holds_forced_of_holds`: every forced condition holds where the tree does
- `Config.filter_narrows_with_tokens`: monotonicity, equivalence and confinement in one statement
-/

namespace FilterQuery

/-- A flat tree holds exactly when all its members do. -/
theorem Filter.holds_flat (truth : Comparison → Bool) (fs ns : List Filter) :
    (flat fs ns).holds truth = (fs ++ ns).all (holds truth) := by
  -- A lone node stands for the conjunction that it would be the only member of.
  unfold flat
  split
  · simp
  · rw [holds_all]

namespace Config

variable {truth : Comparison → Bool}

/-- A token is satisfied when its node holds; a token without a node always is. -/
def TokenHolds (c : Config) (truth : Comparison → Bool) (token : List Char) : Prop :=
  ∀ node, c.tokenNode? token = some node → node.holds truth

/-- The truth of the tree of a filter string is decided token by token. -/
theorem holds_filter_some (c : Config) (raw : String) :
    (c.filter (some raw)).holds truth ↔
      (∀ f ∈ exactComparisons c.forcedFilter, f.holds truth) ∧
        ∀ t ∈ c.grammar.tokens raw.toList, c.TokenHolds truth t := by
  rw [filter_some_eq_flat, Filter.holds_flat, List.all_append, Bool.and_eq_true, List.all_eq_true,
    List.all_eq_true]
  -- The nodes are those of the tokens, so to hold of all nodes is to hold of all tokens.
  refine and_congr_right fun _ => ⟨fun h t ht node hn => ?_, fun h n hn => ?_⟩
  · exact h node (List.mem_filterMap.2 ⟨t, ht, hn⟩)
  · obtain ⟨t, ht, hn⟩ := List.mem_filterMap.1 hn
    exact h t ht n hn

/-- The tree of a request without a filter string holds when all configured conditions do. -/
theorem holds_filter_none (c : Config) :
    (c.filter none).holds truth ↔
      (∀ f ∈ exactComparisons c.forcedFilter, f.holds truth) ∧
        ∀ f ∈ exactComparisons c.defaultFilter, f.holds truth := by
  rw [filter_none_eq_all, Filter.holds_all, List.all_append, Bool.and_eq_true, List.all_eq_true,
    List.all_eq_true]

/-- More tokens keep no more: a tree implies the tree of fewer tokens. -/
theorem filter_implies_of_tokens_subset (c : Config) (few many : String)
    (h : ∀ t ∈ c.grammar.tokens few.toList, t ∈ c.grammar.tokens many.toList) :
    (c.filter (some many)).Implies (c.filter (some few)) := by
  -- The forced conditions are the same on both sides, so only the tokens are compared.
  intro truth hmany
  rw [holds_filter_some] at hmany ⊢
  obtain ⟨hforced, htokens⟩ := hmany
  exact ⟨hforced, fun t ht => htokens t (h t ht)⟩

/-- Every forced condition holds where the tree of a request does. -/
theorem holds_forced_of_holds (c : Config) (raw : Option String)
    (h : (c.filter raw).holds truth) :
    ∀ f ∈ exactComparisons c.forcedFilter, f.holds truth := by
  cases raw with
  | none => exact ((holds_filter_none c).1 h).1
  | some raw => exact ((holds_filter_some c raw).1 h).1

/-- Filter strings only narrow a search. A tree implies the tree of every filter string whose
    tokens it has; filter strings with the same tokens have equivalent trees, in whatever order and
    however often the tokens occur; and every tree, with or without a filter string, implies each
    condition of the forced filter. -/
theorem filter_narrows_with_tokens (c : Config) :
    (∀ few many : String,
        (∀ t ∈ few.toList.splitOn c.grammar.delimiter, t ≠ [] →
          t ∈ many.toList.splitOn c.grammar.delimiter) →
        (c.filter (some many)).Implies (c.filter (some few))) ∧
      (∀ x y : String,
        (∀ t, t ≠ [] → (t ∈ x.toList.splitOn c.grammar.delimiter ↔
          t ∈ y.toList.splitOn c.grammar.delimiter)) →
        ∀ truth, (c.filter (some x)).holds truth = (c.filter (some y)).holds truth) ∧
      ∀ (raw : Option String) (m : FilterMap), c.forcedFilter = some m →
        ∀ field value, m.get? field = some value →
          (c.filter raw).Implies (.compare ⟨field, .exact, .single value⟩) := by
  have hsubset : ∀ few many : String,
      (∀ t ∈ few.toList.splitOn c.grammar.delimiter, t ≠ [] →
        t ∈ many.toList.splitOn c.grammar.delimiter) →
      (c.filter (some many)).Implies (c.filter (some few)) := by
    intro few many h
    -- The tokens are the pieces that hold text.
    refine filter_implies_of_tokens_subset c few many fun t ht => ?_
    obtain ⟨hpiece, hne⟩ := Grammar.mem_tokens_iff.1 ht
    exact Grammar.mem_tokens_iff.2 ⟨h t hpiece hne, hne⟩
  refine ⟨hsubset, fun x y h truth => ?_, fun raw m hm field value hv truth hholds => ?_⟩
  · -- Equal sets of tokens: each tree implies the other.
    refine Bool.eq_iff_iff.2 ⟨fun hx => ?_, fun hy => ?_⟩
    · exact hsubset y x (fun t ht hne => (h t hne).2 ht) truth hx
    · exact hsubset x y (fun t ht hne => (h t hne).1 ht) truth hy
  · exact holds_forced_of_holds c raw hholds _ (mem_exactComparisons_iff.2 ⟨_, hm, _, _, hv, rfl⟩)

/-- The statement at tickets: a second clause narrows the first, repeating and swapping clauses
    changes nothing, and a clause on the tenant's own field does not lift the tenant condition. -/
theorem filter_narrows_with_tokens_tickets :
    ((∀ t ∈ "st__eq__a".toList.splitOn '|', t ≠ [] → t ∈ "q__co__x|st__eq__a".toList.splitOn '|') ∧
      (ticketConfig.filter (some "q__co__x|st__eq__a")).Implies
        (ticketConfig.filter (some "st__eq__a"))) ∧
      ((∀ t, t ≠ [] → (t ∈ "st__eq__a|q__co__x".toList.splitOn '|' ↔
          t ∈ "q__co__x||st__eq__a|q__co__x".toList.splitOn '|')) ∧
        ∀ truth, (ticketConfig.filter (some "st__eq__a|q__co__x")).holds truth =
          (ticketConfig.filter (some "q__co__x||st__eq__a|q__co__x")).holds truth) ∧
      ∃ m, ticketConfig.forcedFilter = some m ∧ m.get? "tenant" = some "acme" ∧
        (ticketConfig.filter (some "tenant__ni__[acme]|st__co__x")).Implies
          (.compare ⟨"tenant", .exact, .single "acme"⟩) := by
  obtain ⟨hnarrow, hsame, hforced⟩ := filter_narrows_with_tokens ticketConfig
  have hfew : ∀ t ∈ "st__eq__a".toList.splitOn '|', t ≠ [] →
      t ∈ "q__co__x|st__eq__a".toList.splitOn '|' := by decide
  -- Both strings have the same two pieces that hold text.
  have hswap : ∀ t, t ≠ [] → (t ∈ "st__eq__a|q__co__x".toList.splitOn '|' ↔
      t ∈ "q__co__x||st__eq__a|q__co__x".toList.splitOn '|') := by
    have hl : "st__eq__a|q__co__x".toList.splitOn '|' =
        ["st__eq__a".toList, "q__co__x".toList] := by decide
    have hr : "q__co__x||st__eq__a|q__co__x".toList.splitOn '|' =
        ["q__co__x".toList, [], "st__eq__a".toList, "q__co__x".toList] := by decide
    intro t ht
    rw [hl, hr]
    simp only [List.mem_cons, List.not_mem_nil, or_false, ht, false_or]
    constructor
    · rintro (h | h)
      · exact .inr (.inl h)
      · exact .inl h
    · rintro (h | h | h)
      · exact .inr h
      · exact .inl h
      · exact .inr h
  exact ⟨⟨hfew, hnarrow _ _ hfew⟩, ⟨hswap, hsame _ _ hswap⟩, _, rfl, by decide,
    hforced _ _ rfl _ _ (by decide)⟩

end Config

end FilterQuery
