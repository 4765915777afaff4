import FilterQuery.Config.Setting
import FilterQuery.Search

/-!
# The tree of a filter string

The filter of a request is folded together from the conditions that every search has and from the
nodes that the clauses of the filter string ask for. This file says which tree comes out: one flat
conjunction, or the bare node of a lone clause.

`Config.Contributes` states the rule for one piece of a filter string as a relation, without the
functions that read the piece; `Config.Contributions` collects the nodes of a list of pieces.

## Key results

- `Filter.foldl_and_all`: joining nodes to a conjunction, one after the other, gives `Filter.flat`
- `Config.filter_some_eq_flat`, `Config.filter_none_eq_all`: the tree with and without a filter string
- `Config.conjuncts_filter_some`: the conjuncts of the tree, whatever its root
- `Config.contributes_iff`, `Config.contributions_iff`: the relations and the functions agree
- `Config.filter_eq_tree`: the tree is determined by the pieces, the mapping and the forced filter
-/

namespace FilterQuery

/-! ## Pieces of a filter string -/

/-- Cutting at a separator is the library's `List.splitOn`. -/
theorem Text.pieces_eq_splitOn (d : Char) (s : List Char) : Text.pieces d s = s.splitOn d := by
  induction s with
  | nil => rfl
  | cons c cs ih =>
    rw [List.splitOn_cons_eq_if_modifyHead, Text.pieces, ih]
    by_cases hc : c = d
    · simp [hc]
    · simp only [hc, if_false, beq_iff_eq]
      -- The next pieces are never an empty list, so there is a first one to grow.
      cases hp : cs.splitOn d with
      | nil => exact absurd hp (List.splitOn_ne_nil d cs)
      | cons p ps => simp

/-- The tokens of a filter string are the pieces between its delimiters that hold text. -/
theorem Grammar.tokens_eq_filter_splitOn (g : Grammar) (raw : List Char) :
    g.tokens raw = (raw.splitOn g.delimiter).filter (· ≠ []) := by
  rw [Grammar.tokens, Text.words, Text.pieces_eq_splitOn]

/-- A token is a piece between delimiters that is not empty. -/
theorem Grammar.mem_tokens_iff {g : Grammar} {raw t : List Char} :
    t ∈ g.tokens raw ↔ t ∈ raw.splitOn g.delimiter ∧ t ≠ [] := by
  simp [Grammar.tokens_eq_filter_splitOn]

/-- No token holds the delimiter. -/
theorem Grammar.delimiter_notMem_of_mem_tokens {g : Grammar} {raw t : List Char}
    (h : t ∈ g.tokens raw) : g.delimiter ∉ t :=
  Text.notMem_of_mem_pieces (List.mem_filter.1 h).1

/-- A token gives a clause when it can be classified and has a value. -/
theorem Grammar.clause?_eq_some_iff {g : Grammar} {token : List Char} {clause : Clause} :
    g.clause? token = some clause ↔
      g.classify token = some clause ∧ clause.value.isEmpty = false := by
  simp [Grammar.clause?, Option.filter_eq_some_iff]

/-! ## Joining nodes to a conjunction -/

namespace Filter

/-- The filter is not a conjunction: it is its own only conjunct. -/
def IsNode (f : Filter) : Prop := f.conjuncts = [f]

/-- One conjunction of two lists of filters, except that a lone filter of the second list stands
    for itself. -/
def flat : List Filter → List Filter → Filter
  | [], [node] => node
  | forced, nodes => .all (forced ++ nodes)

theorem IsNode.ne_everything {f : Filter} (h : f.IsNode) : f ≠ everything := by
  intro he
  rw [he] at h
  simp [IsNode] at h

/-- Two conjunctions join to one, empty or not. -/
private theorem all_and_all (fs gs : List Filter) : (Filter.all fs).and (.all gs) = .all (fs ++ gs) := by
  -- An empty conjunction is a unit; of two others the members are spliced.
  cases gs with
  | nil => rw [List.append_nil]; exact and_everything _
  | cons g gs =>
    cases fs with
    | nil => exact everything_and _
    | cons f fs => exact and_of_ne_everything (by simp [everything]) (by simp [everything])

/-- Joining one node to a conjunction that has members appends it. -/
private theorem all_and_node (fs : List Filter) (n : Filter) (hfs : fs ≠ []) (hn : n.IsNode) :
    (Filter.all fs).and n = .all (fs ++ [n]) := by
  have hne : Filter.all fs ≠ everything := by
    intro h
    exact hfs (by simpa [everything] using h)
  rw [and_of_ne_everything hne hn.ne_everything, hn, conjuncts]

/-- Joining nodes to a conjunction that has members appends all of them. -/
private theorem foldl_and_all_of_ne_nil (fs ns : List Filter) (hfs : fs ≠ [])
    (hns : ∀ n ∈ ns, n.IsNode) : ns.foldl and (.all fs) = .all (fs ++ ns) := by
  -- The members so far are generalized: every node joins them at the end.
  induction ns generalizing fs with
  | nil => simp
  | cons n ns ih =>
    have hn : n.IsNode := hns n (List.mem_cons_self ..)
    rw [List.foldl_cons, all_and_node fs n hfs hn,
      ih (fs ++ [n]) (by simp) (fun m hm => hns m (List.mem_cons_of_mem _ hm))]
    simp

/-- Joining nodes to a conjunction gives one flat conjunction, or the lone node. -/
theorem foldl_and_all (fs ns : List Filter) (hns : ∀ n ∈ ns, n.IsNode) :
    ns.foldl and (.all fs) = flat fs ns := by
  cases fs with
  -- With a member from the start the root is a conjunction throughout.
  | cons f fs =>
    rw [foldl_and_all_of_ne_nil (f :: fs) ns (by simp) hns]
    rfl
  | nil =>
    -- The empty conjunction vanishes at the first node, so the root depends on how many there are.
    cases ns with
    | nil => rfl
    | cons n ns =>
      have hn : n.IsNode := hns n (List.mem_cons_self ..)
      have hstep : ((.all [] : Filter).and n) = n := everything_and n
      rw [List.foldl_cons, hstep]
      cases ns with
      | nil => rfl
      | cons m ms =>
        have hm : m.IsNode := hns m (by simp)
        -- From two nodes on there is a conjunction with members again.
        have hpair : n.and m = .all [n, m] := by
          rw [and_of_ne_everything hn.ne_everything hm.ne_everything, hn, hm]
          rfl
        rw [List.foldl_cons, hpair, foldl_and_all_of_ne_nil [n, m] ms (by simp)
          (fun k hk => hns k (by simp [hk]))]
        rfl

/-- The conjuncts of a flat tree of nodes are the two lists. -/
private theorem conjuncts_flat (fs ns : List Filter) (hns : ∀ n ∈ ns, n.IsNode) :
    (flat fs ns).conjuncts = fs ++ ns := by
  unfold flat
  split
  · rename_i node
    exact hns node (by simp)
  · rfl

end Filter

/-! ## What a piece contributes -/

/-- One comparison on one field, or a disjunction with one comparison for each of several. -/
inductive FanOut (comparator : Comparator) (value : Value) : List String → Filter → Prop where
  | one (field : String) : FanOut comparator value [field] (.compare ⟨field, comparator, value⟩)
  | several (fields : List String) (h : fields.length ≠ 1) :
    FanOut comparator value fields
      (.any (fields.map fun field => .compare ⟨field, comparator, value⟩))

namespace Config

/-- A piece of a filter string contributes a node: it is a clause with a value and a mapped key,
    and the node compares each field of the key with the value. Negated membership negates the
    whole node. -/
inductive Contributes (c : Config) (piece : List Char) : Filter → Prop where
  | positive {clause : Clause} {fields : List String} {node : Filter}
    (hclause : c.grammar.classify piece = some clause) (hvalue : clause.value.isEmpty = false)
    (hkey : c.mapping.get? clause.key = some fields) (hoperator : clause.operator ≠ .notIn)
    (hnode : FanOut (clause.operator.comparator c.caseSensitive) clause.value fields node) :
    Contributes c piece node
  | negative {clause : Clause} {fields : List String} {node : Filter}
    (hclause : c.grammar.classify piece = some clause) (hvalue : clause.value.isEmpty = false)
    (hkey : c.mapping.get? clause.key = some fields) (hoperator : clause.operator = .notIn)
    (hnode : FanOut (clause.operator.comparator c.caseSensitive) clause.value fields node) :
    Contributes c piece (.not node)

/-- The nodes that the pieces of a list contribute, in the order of the pieces. -/
inductive Contributions (c : Config) : List (List Char) → List Filter → Prop where
  | nil : Contributions c [] []
  | skip {piece : List Char} {pieces : List (List Char)} {nodes : List Filter}
    (h : ∀ node, ¬ c.Contributes piece node) (rest : Contributions c pieces nodes) :
    Contributions c (piece :: pieces) nodes
  | keep {piece : List Char} {pieces : List (List Char)} {node : Filter} {nodes : List Filter}
    (h : c.Contributes piece node) (rest : Contributions c pieces nodes) :
    Contributions c (piece :: pieces) (node :: nodes)

/-- The node of a token, if it contributes one. -/
def tokenNode? (c : Config) (token : List Char) : Option Filter :=
  (c.grammar.clause? token).bind c.node?

/-- The nodes of a filter string, in the order of its tokens. -/
def nodes (c : Config) (raw : String) : List Filter :=
  (c.grammar.tokens raw.toList).filterMap c.tokenNode?

end Config

/-- Spreading a comparison over fields gives what they are said to give. -/
theorem fanOut_spread (comparator : Comparator) (value : Value) (fields : List String) :
    FanOut comparator value fields
      (spread fields fun field => .compare ⟨field, comparator, value⟩) := by
  -- A list of one field is singled out by its shape, the others by their length.
  unfold spread
  split
  · exact .one _
  · rename_i hfields
    refine .several fields fun hlength => ?_
    obtain ⟨field, hfield⟩ := List.length_eq_one_iff.1 hlength
    exact hfields field hfield

/-- What fields are said to give is what spreading a comparison over them gives. -/
theorem FanOut.eq_spread {comparator : Comparator} {value : Value} {fields : List String}
    {node : Filter} (h : FanOut comparator value fields node) :
    node = spread fields fun field => .compare ⟨field, comparator, value⟩ := by
  cases h with
  | one field => rfl
  | several _ hlength =>
    unfold spread
    split
    · simp at hlength
    · rfl

theorem FanOut.isNode {comparator : Comparator} {value : Value} {fields : List String}
    {node : Filter} (h : FanOut comparator value fields node) : node.IsNode := by
  cases h <;> rfl

namespace Config

/-- The relation and the function agree on what a piece contributes. -/
theorem contributes_iff (c : Config) (piece : List Char) (node : Filter) :
    c.Contributes piece node ↔ c.tokenNode? piece = some node := by
  simp only [tokenNode?, Option.bind_eq_some_iff, Grammar.clause?_eq_some_iff, node?,
    Option.map_eq_some_iff]
  constructor
  · intro h
    cases h with
    | positive hclause hvalue hkey hoperator hnode =>
      refine ⟨_, ⟨hclause, hvalue⟩, _, hkey, ?_⟩
      rw [if_neg hoperator, hnode.eq_spread]
    | negative hclause hvalue hkey hoperator hnode =>
      refine ⟨_, ⟨hclause, hvalue⟩, _, hkey, ?_⟩
      rw [if_pos hoperator, hnode.eq_spread]
  · intro h
    -- The constructor is chosen by the operator, as the node is.
    obtain ⟨clause, ⟨hclause, hvalue⟩, fields, hkey, rfl⟩ := h
    have hnode := fanOut_spread (clause.operator.comparator c.caseSensitive) clause.value fields
    split
    · rename_i hoperator
      exact .negative hclause hvalue hkey hoperator hnode
    · rename_i hoperator
      exact .positive hclause hvalue hkey hoperator hnode

/-- A clause has a node exactly when its key is mapped. -/
theorem exists_node?_iff {c : Config} {clause : Clause} :
    (∃ node, c.node? clause = some node) ↔ clause.key ∈ c.mapping.keys := by
  constructor
  · intro ⟨node, hnode⟩
    obtain ⟨fields, hfields, -⟩ := Option.map_eq_some_iff.1 hnode
    exact Table.mem_keys_iff.2 ⟨fields, hfields⟩
  · intro hkey
    obtain ⟨fields, hfields⟩ := Table.mem_keys_iff.1 hkey
    exact ⟨_, Option.map_eq_some_iff.2 ⟨fields, hfields, rfl⟩⟩

/-- What a piece contributes is never a conjunction. -/
theorem Contributes.isNode {c : Config} {piece : List Char} {node : Filter}
    (h : c.Contributes piece node) : node.IsNode := by
  cases h with
  | positive _ _ _ _ hnode => exact hnode.isNode
  | negative => rfl

/-- The relation and the function agree on what a list of pieces contributes. -/
theorem contributions_iff (c : Config) (pieces : List (List Char)) (ns : List Filter) :
    c.Contributions pieces ns ↔ ns = pieces.filterMap c.tokenNode? := by
  constructor
  · intro h
    -- Each constructor is one step of the filter over the pieces.
    induction h with
    | nil => rfl
    | @skip piece pieces ns hn rest ih =>
      have hnone : c.tokenNode? piece = none :=
        Option.eq_none_iff_forall_ne_some.2 fun node hnode =>
          hn node ((contributes_iff c piece node).2 hnode)
      rw [List.filterMap_cons_none hnone, ← ih]
    | @keep piece pieces node ns hn rest ih =>
      rw [List.filterMap_cons_some ((contributes_iff c piece node).1 hn), ← ih]
  · intro h
    subst h
    -- Each piece is skipped or kept as the function says.
    induction pieces with
    | nil => exact .nil
    | cons piece pieces ih =>
      cases hp : c.tokenNode? piece with
      | none =>
        have hskip : ∀ node, ¬ c.Contributes piece node := by
          intro node hn
          rw [contributes_iff, hp] at hn
          exact nomatch hn
        rw [List.filterMap_cons_none hp]
        exact .skip hskip ih
      | some node =>
        rw [List.filterMap_cons_some hp]
        exact .keep ((contributes_iff c piece node).2 hp) ih

/-! ## The tree of a request -/

/-- The nodes of a filter string are no conjunctions, so joining them splices none of them. -/
theorem isNode_of_mem_nodes {c : Config} {raw : String} {n : Filter} (h : n ∈ c.nodes raw) :
    n.IsNode := by
  obtain ⟨t, -, ht⟩ := List.mem_filterMap.1 h
  exact ((contributes_iff c t n).2 ht).isNode

/-- Without a filter string the forced and the default conditions stand in one conjunction. -/
theorem filter_none_eq_all (c : Config) :
    c.filter none =
      .all (exactComparisons c.forcedFilter ++ exactComparisons c.defaultFilter) :=
  Filter.all_and_all _ _

/-- With a filter string the forced conditions and the nodes of its tokens stand in one flat
    tree. -/
theorem filter_some_eq_flat (c : Config) (raw : String) :
    c.filter (some raw) = .flat (exactComparisons c.forcedFilter) (c.nodes raw) := by
  -- Reading clauses and looking up their nodes are one pass over the tokens.
  have hnodes : (c.grammar.tokenize raw).filterMap c.node? = c.nodes raw := by
    simp only [Grammar.tokenize, nodes, List.filterMap_filterMap]
    rfl
  simp only [filter, filterOfClauses, Option.map_some, hnodes]
  exact Filter.foldl_and_all _ _ fun n hn => isNode_of_mem_nodes hn

/-- Whatever the root of the tree is, its conjuncts are the forced conditions and the nodes. -/
theorem conjuncts_filter_some (c : Config) (raw : String) :
    (c.filter (some raw)).conjuncts = exactComparisons c.forcedFilter ++ c.nodes raw := by
  rw [filter_some_eq_flat, Filter.conjuncts_flat _ _ fun n hn => isNode_of_mem_nodes hn]

/-- The configuration without its default filter. -/
def withoutDefault (c : Config) : Config where
  toDraft := { c.toDraft with defaultFilter := none }
  sound := ⟨c.sound.mapping_ne_nil, c.sound.entries, c.sound.forcedFilter, by simp [SoundFilter],
    c.sound.defaultOrder⟩

/-- The tree of a request. Without a filter string it is the conjunction of the forced and the
    default conditions. With one it is made of the forced conditions and of the nodes that the
    pieces between the delimiters contribute, and of nothing else: the default filter has no part
    in it, even if no piece contributes. -/
theorem filter_eq_tree (c : Config) :
    c.filter none =
        .all (exactComparisons c.forcedFilter ++ exactComparisons c.defaultFilter) ∧
      ∀ raw : String, ∃ ns : List Filter,
        (∀ ms, c.Contributions ((raw.toList.splitOn c.grammar.delimiter).filter (· ≠ [])) ms ↔
          ms = ns) ∧
        c.filter (some raw) = .flat (exactComparisons c.forcedFilter) ns ∧
        c.filter (some raw) = c.withoutDefault.filter (some raw) := by
  refine ⟨filter_none_eq_all c, fun raw => ⟨c.nodes raw, fun ms => ?_, filter_some_eq_flat c raw,
    ?_⟩⟩
  · rw [contributions_iff, ← Grammar.tokens_eq_filter_splitOn, nodes]
  · rw [filter_some_eq_flat, filter_some_eq_flat]
    rfl

end Config

/-! ## An example -/

/-- Tickets of one tenant. The key `st` is the status, `q` searches the title and the body. -/
def ticketDraft : Draft :=
  let mapping := FieldMapping.ofSteps [.field "st" "status", .fields "q" ["title", "body"]]
  (Draft.ofMapping mapping).applyAll [.forced "tenant" "acme", .byDefault "archived" "false"]

/-- The options of tickets are sound. -/
def ticketConfig : Config := ⟨ticketDraft, Draft.firstDefect_eq_none_iff.1 (by decide)⟩

example : ticketConfig.filter (some "q__co__x|junk|zz__eq__1|st__ni__[a, b]") =
    .all [.compare ⟨"tenant", .exact, .single "acme"⟩,
      .any [.compare ⟨"title", .containsAnyCase, .single "x"⟩,
        .compare ⟨"body", .containsAnyCase, .single "x"⟩],
      .not (.compare ⟨"status", .isIn, .list ["a", "b"]⟩)] := by
  decide

end FilterQuery
