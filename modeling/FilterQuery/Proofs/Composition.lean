import FilterQuery.Proofs.FilterTree

/-!
# Filter strings compose

Two filter strings that are joined with the delimiter give the join of their trees, down to the
shape of the tree, when the second is read without the forced filter. The law is exact because
`Filter.and` is a monoid and the pieces of a filter string are read without context; what is ignored
in a filter string can therefore stand anywhere in it.

## Key results

- `Filter.foldl_and`: joining filters one by one is joining what they make together
- `Config.nodes_intercalate`: a joined filter string has the nodes of its parts
- `Config.filter_append`: the composition law
- `Config.filter_composes`: composition, ignored tokens and idle delimiters in one statement
-/

namespace FilterQuery

/-- Joining filters to a filter one by one is joining what they make together. -/
theorem Filter.foldl_and (f : Filter) (ns : List Filter) :
    ns.foldl and f = f.and (ns.foldl and everything) := by
  -- The filter in front is generalized, since every join changes it.
  induction ns generalizing f with
  | nil => simp
  | cons n ns ih =>
    rw [List.foldl_cons, List.foldl_cons, ih (f.and n), everything_and, ih n, and_assoc]

namespace Config

variable {c : Config}

/-! ## Nodes of joined filter strings -/

/-- Two filter strings joined by a delimiter have the nodes of the first and then those of the second. -/
theorem nodes_append (c : Config) (x y : String) :
    c.nodes (x ++ String.singleton c.grammar.delimiter ++ y) = c.nodes x ++ c.nodes y := by
  simp [nodes, Grammar.tokens, Text.words_append_cons]

@[simp] theorem nodes_empty (c : Config) : c.nodes "" = [] := by
  simp [nodes, Grammar.tokens, Text.words]

/-- A joined filter string has the nodes of its parts, whatever delimiters the parts hold. -/
theorem nodes_intercalate (c : Config) (texts : List String) :
    c.nodes ((String.singleton c.grammar.delimiter).intercalate texts) = texts.flatMap c.nodes := by
  induction texts with
  | nil => simp
  -- A delimiter stands behind a part only if another part follows.
  | cons text texts ih =>
    cases texts with
    | nil => simp
    | cons next texts =>
      rw [String.intercalate_cons_cons, nodes_append, ih]
      rfl

/-- Trees of filter strings with the same nodes are the same. -/
theorem filter_eq_of_nodes_eq {x y : String} (h : c.nodes x = c.nodes y) :
    c.filter (some x) = c.filter (some y) := by
  rw [filter_some_eq_flat, filter_some_eq_flat, h]

/-! ## Composition -/

/-- The configuration without its forced filter. -/
def withoutForced (c : Config) : Config where
  toDraft := { c.toDraft with forcedFilter := none }
  sound := ⟨c.sound.mapping_ne_nil, c.sound.entries, by simp [SoundFilter], c.sound.defaultFilter,
    c.sound.defaultOrder⟩

private theorem nodes_withoutForced (c : Config) (raw : String) :
    c.withoutForced.nodes raw = c.nodes raw :=
  rfl

/-- The tree of a filter string is folded together from the forced conditions and its nodes. -/
theorem filter_some_eq_foldl (c : Config) (raw : String) :
    c.filter (some raw) =
      (c.nodes raw).foldl Filter.and (.all (exactComparisons c.forcedFilter)) := by
  rw [filter_some_eq_flat, Filter.foldl_and_all _ _ fun n hn => isNode_of_mem_nodes hn]

/-- The tree of a joined filter string is the join of the trees, where the forced conditions come from
    one of the two only. -/
theorem filter_append (c : Config) (x y : String) :
    c.filter (some (x ++ String.singleton c.grammar.delimiter ++ y)) =
      (c.filter (some x)).and (c.withoutForced.filter (some y)) := by
  have hright : c.withoutForced.filter (some y) = (c.nodes y).foldl Filter.and .everything := by
    rw [filter_some_eq_foldl, nodes_withoutForced]
    rfl
  -- What the second string adds is folded to the first tree; by associativity it can be folded by
  -- itself before.
  rw [filter_some_eq_foldl, nodes_append, List.foldl_append, Filter.foldl_and, ← hright,
    ← filter_some_eq_foldl]

/-! ## What is ignored -/

/-- The token is no clause, or a clause without a value or with a key that is not mapped. -/
def Ignores (c : Config) (token : String) : Prop :=
  ∀ clause, c.grammar.classify token.toList = some clause →
    clause.value.isEmpty ∨ clause.key ∉ c.mapping.keys

/-- A token that is ignored has no node, for one of the three reasons to ignore it. -/
private theorem tokenNode?_eq_none_of_ignores {token : String} (h : c.Ignores token) :
    c.tokenNode? token.toList = none := by
  -- A node would come from a clause with a value and a mapped key.
  refine Option.eq_none_iff_forall_ne_some.2 fun node hnode => ?_
  obtain ⟨clause, hclause, hn⟩ := Option.bind_eq_some_iff.1 hnode
  obtain ⟨hclassify, hvalue⟩ := Grammar.clause?_eq_some_iff.1 hclause
  rcases h clause hclassify with hempty | hkey
  · simp [hempty] at hvalue
  · exact hkey (exists_node?_iff.1 ⟨node, hn⟩)

/-- An ignored token has no nodes, for it is a filter string of one token at most. -/
private theorem nodes_eq_nil_of_ignores {token : String}
    (hdelimiter : c.grammar.delimiter ∉ token.toList)
    (h : c.Ignores token) : c.nodes token = [] := by
  have hpieces : Text.pieces c.grammar.delimiter token.toList = [token.toList] :=
    Text.pieces_of_notMem hdelimiter
  refine List.filterMap_eq_nil_iff.2 fun t ht => ?_
  have hself : t = token.toList := by
    simpa [hpieces] using (List.mem_filter.1 ht).1
  rw [hself, tokenNode?_eq_none_of_ignores h]

/-- A row of delimiters. -/
def delimiters (c : Config) (n : Nat) : String :=
  String.ofList (List.replicate n c.grammar.delimiter)

/-- Filter strings compose. The tree of a joined filter string is the join of the tree of the one with
    the tree of the other without the forced filter. A token that is ignored changes no tree, wherever
    it is put in between others or at either end, and neither do delimiters in front of a filter
    string, behind it, or next to another delimiter. -/
theorem filter_composes (c : Config) :
    (∀ x y : String,
        c.filter (some (x ++ String.singleton c.grammar.delimiter ++ y)) =
          (c.filter (some x)).and (c.withoutForced.filter (some y))) ∧
      (∀ (front back : List String) (token : String), c.grammar.delimiter ∉ token.toList →
        c.Ignores token →
        c.filter (some ((String.singleton c.grammar.delimiter).intercalate
            (front ++ token :: back))) =
          c.filter (some ((String.singleton c.grammar.delimiter).intercalate (front ++ back)))) ∧
      ∀ (x y : String) (n : Nat),
        c.filter (some (c.delimiters n ++ x)) = c.filter (some x) ∧
        c.filter (some (x ++ c.delimiters n)) = c.filter (some x) ∧
        c.filter (some (x ++ c.delimiters (n + 1) ++ y)) =
          c.filter (some (x ++ String.singleton c.grammar.delimiter ++ y)) := by
  refine ⟨filter_append c, fun front back token hdelimiter hignores => ?_, fun x y n => ?_⟩
  -- A part without nodes adds nothing, wherever it stands.
  · have hnil : c.nodes token = [] := nodes_eq_nil_of_ignores hdelimiter hignores
    refine filter_eq_of_nodes_eq ?_
    simp only [nodes_intercalate, List.flatMap_append, List.flatMap_cons, hnil, List.nil_append]
  · -- Empty words between delimiters are no tokens, so the nodes stay the same.
    refine ⟨filter_eq_of_nodes_eq ?_, filter_eq_of_nodes_eq ?_, filter_eq_of_nodes_eq ?_⟩
    · simp [nodes, Grammar.tokens, delimiters, Text.words_replicate_append]
    · simp [nodes, Grammar.tokens, delimiters, Text.words_append_replicate]
    · simp [nodes, Grammar.tokens, delimiters, List.replicate_succ, Text.words_append_cons,
        Text.words_replicate_append]

/-- The statement at tickets: the token of an unmapped key stands in the middle, and bars stand
    everywhere. -/
theorem filter_composes_tickets :
    ticketConfig.filter (some "st__eq__a|q__co__x") =
        (ticketConfig.filter (some "st__eq__a")).and
          (ticketConfig.withoutForced.filter (some "q__co__x")) ∧
      ('|' ∉ "zz__eq__1".toList ∧ ticketConfig.Ignores "zz__eq__1" ∧
        ticketConfig.filter (some "st__eq__a|zz__eq__1|q__co__x") =
          ticketConfig.filter (some "st__eq__a|q__co__x")) ∧
      ticketConfig.filter (some "||st__eq__a") = ticketConfig.filter (some "st__eq__a") ∧
      ticketConfig.filter (some "st__eq__a||") = ticketConfig.filter (some "st__eq__a") ∧
      ticketConfig.filter (some "st__eq__a|||q__co__x") =
        ticketConfig.filter (some "st__eq__a|q__co__x") := by
  obtain ⟨happend, hinsert, hbars⟩ := filter_composes ticketConfig
  have hignores : ticketConfig.Ignores "zz__eq__1" := by
    intro clause hclause
    have hread : ticketConfig.grammar.classify "zz__eq__1".toList =
        some ⟨"zz", .exact, .single "1"⟩ := by
      decide
    rw [hread, Option.some.injEq] at hclause
    subst hclause
    exact .inr (by decide)
  exact ⟨happend "st__eq__a" "q__co__x",
    ⟨by decide, hignores, hinsert ["st__eq__a"] ["q__co__x"] "zz__eq__1" (by decide) hignores⟩,
    hbars "st__eq__a" "q__co__x" 2⟩

end Config

end FilterQuery
