import FilterQuery.Proofs.ClauseText
import FilterQuery.Proofs.FilterTree

/-!
# Well-formed trees

Every tree that a search hands to a store has one of a few shapes. Below the root there are only
comparisons, disjunctions of comparisons that differ in their field, and negated membership tests.
`Config.WellFormed` spells this out over all subtrees and all leaves.

The invariant that carries the proof is `Config.Part`, a grammar of the subtrees: it holds of each
conjunct of the tree of a request, passes to subtrees, and gives each clause of `WellFormed`.

## Key results

- `Filter.exists_conjunct_of_mem_inner`: what stands below the root stands in a conjunct
- `Config.part_of_mem_conjuncts`: the conjuncts of the tree of a request are parts
- `Config.Part.of_mem_subfilters`: the subtrees of a part are parts
- `Config.wellFormed_filter`: the tree of a request is well formed
-/

namespace FilterQuery

/-! ## Subtrees -/

namespace Filter

mutual

/-- The subtrees of a filter other than itself, from left to right. -/
def inner : Filter → List Filter
  | .compare _ => []
  | .all fs => subfiltersOf fs
  | .any fs => subfiltersOf fs
  | .not f => f :: f.inner

/-- The subtrees of several filters, themselves included. -/
def subfiltersOf : List Filter → List Filter
  | [] => []
  | f :: fs => f :: (f.inner ++ subfiltersOf fs)

end

/-- The subtrees of a filter, itself first. -/
def subfilters (f : Filter) : List Filter := f :: f.inner

theorem subfiltersOf_eq_flatMap (fs : List Filter) : subfiltersOf fs = fs.flatMap subfilters := by
  induction fs with
  | nil => rfl
  | cons f fs ih => simp [subfiltersOf, subfilters, ih]

@[simp] theorem inner_compare (x : Comparison) : (Filter.compare x).inner = [] := by
  simp [inner]

/-- Below a conjunction stand its members and what is below these. -/
@[simp] theorem inner_all (fs : List Filter) : (Filter.all fs).inner = fs.flatMap subfilters := by
  rw [inner, subfiltersOf_eq_flatMap]

@[simp] theorem inner_any (fs : List Filter) : (Filter.any fs).inner = fs.flatMap subfilters := by
  rw [inner, subfiltersOf_eq_flatMap]

/-- Below a negation stand the negated filter and what is below that. -/
@[simp] theorem inner_not (f : Filter) : (Filter.not f).inner = f.subfilters := by
  rw [inner, subfilters]

/-- Below a disjunction of comparisons there are these comparisons only. -/
theorem inner_any_map_compare {α : Type} (xs : List α) (leaf : α → Comparison) :
    (Filter.any (xs.map fun a => .compare (leaf a))).inner = xs.map fun a => .compare (leaf a) := by
  rw [inner_any, List.flatMap_map]
  simp [subfilters, inner_compare, List.map_eq_flatMap]

/-- What stands below the root stands in a conjunct. -/
theorem exists_conjunct_of_mem_inner {f g : Filter} (h : g ∈ f.inner) :
    ∃ n ∈ f.conjuncts, g ∈ n.subfilters := by
  -- A conjunction is taken apart by its conjuncts, any other filter is the only one.
  unfold conjuncts
  split
  · rw [inner_all] at h
    exact List.mem_flatMap.1 h
  · exact ⟨f, by simp, List.mem_cons_of_mem _ h⟩

/-- A subtree is the conjunction at the root or stands in a conjunct. -/
theorem eq_or_exists_conjunct_of_mem_subfilters {f g : Filter} (h : g ∈ f.subfilters) :
    (∃ fs, g = .all fs) ∨ ∃ n ∈ f.conjuncts, g ∈ n.subfilters := by
  rcases List.mem_cons.1 h with rfl | h
  · unfold conjuncts
    split
    · exact .inl ⟨_, rfl⟩
    · exact .inr ⟨g, by simp, List.mem_cons_self ..⟩
  · exact .inr (exists_conjunct_of_mem_inner h)

mutual

/-- The leaves of a filter are subtrees of it. -/
theorem compare_mem_subfilters {x : Comparison} :
    (f : Filter) → x ∈ f.comparisons → .compare x ∈ f.subfilters
  | .compare y, h => by
    rw [comparisons, List.mem_singleton] at h
    simp [subfilters, h]
  | .all fs, h => by
    rw [comparisons] at h
    exact List.mem_cons_of_mem _ (by simpa [inner] using compare_mem_subfiltersOf fs h)
  | .any fs, h => by
    rw [comparisons] at h
    exact List.mem_cons_of_mem _ (by simpa [inner] using compare_mem_subfiltersOf fs h)
  | .not f, h => by
    rw [comparisons] at h
    exact List.mem_cons_of_mem _ (by simpa [inner, subfilters] using compare_mem_subfilters f h)

theorem compare_mem_subfiltersOf {x : Comparison} :
    (fs : List Filter) → x ∈ comparisonsOf fs → .compare x ∈ subfiltersOf fs
  | [], h => by simp [comparisonsOf] at h
  | f :: fs, h => by
    rw [comparisonsOf, List.mem_append] at h
    rw [subfiltersOf, ← List.cons_append, List.mem_append]
    exact h.imp (compare_mem_subfilters f) (compare_mem_subfiltersOf fs)

end

/-- A membership test on one field, or on any of several. -/
def IsMembership (f : Filter) : Prop :=
  (∃ x, f = .compare x ∧ x.comparator = .isIn) ∨
    ∃ gs, f = .any gs ∧ ∀ g ∈ gs, ∃ x, g = .compare x ∧ x.comparator = .isIn

/-- No negation stands in a membership test. -/
private theorem IsMembership.ne_not_of_mem_subfilters {f g : Filter} (h : f.IsMembership)
    (hg : g ∈ f.subfilters) (k : Filter) : g ≠ .not k := by
  cases h with
  | inl hone =>
    obtain ⟨x, rfl, -⟩ := hone
    rw [subfilters, inner_compare, List.mem_singleton] at hg
    exact hg ▸ nofun
  | inr hseveral =>
    -- The members of the disjunction are comparisons, with nothing below.
    obtain ⟨gs, rfl, hgs⟩ := hseveral
    cases List.mem_cons.1 hg with
    | inl hself => exact hself ▸ nofun
    | inr hg =>
      rw [inner_any] at hg
      obtain ⟨m, hm, hgm⟩ := List.mem_flatMap.1 hg
      obtain ⟨x, rfl, -⟩ := hgs m hm
      rw [subfilters, inner_compare, List.mem_singleton] at hgm
      exact hgm ▸ nofun

end Filter

/-! ## Well-formedness -/

namespace Config

/-- A comparison that a client may ask for: its field is a target of a key, its value is usable,
    and lists go with membership. -/
structure ClientComparison (c : Config) (x : Comparison) : Prop where
  target : ∃ key fields, c.mapping.get? key = some fields ∧ x.field ∈ fields
  isIn_iff : x.comparator = .isIn ↔ ∃ items, x.value = .list items
  usable : x.value.Usable c.grammar.delimiter

/-- A leaf of the tree of a request is a forced condition; or a default condition, if there is no
    filter string; or a client's comparison, if there is one. -/
def Leaf (c : Config) (raw : Option String) (x : Comparison) : Prop :=
  .compare x ∈ exactComparisons c.forcedFilter ∨
    (raw = none ∧ .compare x ∈ exactComparisons c.defaultFilter) ∨
    (raw ≠ none ∧ c.ClientComparison x)

/-- What a store may rely on in the tree of a request. -/
structure WellFormed (c : Config) (raw : Option String) (f : Filter) : Prop where
  /-- A conjunction is the root. -/
  no_all_inner : ∀ g ∈ f.inner, ∀ gs, g ≠ .all gs
  /-- A disjunction has at least two children, comparisons with one comparator and one value. -/
  any_uniform : ∀ gs, .any gs ∈ f.subfilters →
    2 ≤ gs.length ∧ ∃ comparator value, ∀ g ∈ gs, ∃ field, g = .compare ⟨field, comparator, value⟩
  /-- A negation is one of a membership test. -/
  not_membership : ∀ g, .not g ∈ f.subfilters → g.IsMembership
  /-- No negation stands in a disjunction or in another negation. -/
  no_not_inner : ∀ g ∈ f.subfilters, ((∃ gs, g = .any gs) ∨ ∃ h, g = .not h) →
    ∀ h ∈ g.inner, ∀ k, h ≠ .not k
  leaves : ∀ x ∈ f.comparisons, c.Leaf raw x
  /-- The case setting decides how substrings are compared. -/
  sameCase : ∀ x ∈ f.comparisons, x.comparator = .containsSameCase → c.caseSensitive = true
  anyCase : ∀ x ∈ f.comparisons, x.comparator = .containsAnyCase → c.caseSensitive = false

/-- The case setting allows the comparator. -/
def CaseAllows (c : Config) (comparator : Comparator) : Prop :=
  (comparator = .containsSameCase → c.caseSensitive = true) ∧
    (comparator = .containsAnyCase → c.caseSensitive = false)

/-- The subtrees of a request's tree other than the conjunction at its root. -/
inductive Part (c : Config) (raw : Option String) : Filter → Prop where
  | compare {x : Comparison} (hleaf : c.Leaf raw x) (hcase : c.CaseAllows x.comparator) :
    Part c raw (.compare x)
  | any {fields : List String} {comparator : Comparator} {value : Value}
    (hlength : 2 ≤ fields.length)
    (hleaf : ∀ field ∈ fields, c.Leaf raw ⟨field, comparator, value⟩)
    (hcase : c.CaseAllows comparator) :
    Part c raw (.any (fields.map fun field => .compare ⟨field, comparator, value⟩))
  | not {f : Filter} (hmembership : f.IsMembership) (hpart : Part c raw f) : Part c raw (.not f)

variable {c : Config} {raw : Option String} {f g : Filter}

namespace Part

/-- The subtrees of a part are parts. -/
theorem of_mem_subfilters (h : Part c raw f) (hg : g ∈ f.subfilters) : Part c raw g := by
  -- One case for each kind of part: itself, or a subtree of its payload.
  induction h with
  | compare hleaf hcase =>
    rw [Filter.subfilters, Filter.inner_compare, List.mem_singleton] at hg
    exact hg ▸ .compare hleaf hcase
  | any hlength hleaf hcase =>
    cases List.mem_cons.1 hg with
    | inl hself => exact hself ▸ .any hlength hleaf hcase
    | inr hg =>
      rw [Filter.inner_any_map_compare] at hg
      obtain ⟨field, hfield, rfl⟩ := List.mem_map.1 hg
      exact .compare (hleaf field hfield) hcase
  | not hmembership hpart ih =>
    cases List.mem_cons.1 hg with
    | inl hself => exact hself ▸ .not hmembership hpart
    | inr hg =>
      rw [Filter.inner_not] at hg
      exact ih hg

private theorem ne_all (h : Part c raw f) (gs : List Filter) : f ≠ .all gs := by
  cases h <;> exact nofun

/-- A part that is a comparison is a leaf, and its comparator fits the case setting. -/
theorem leaf {x : Comparison} (h : Part c raw (.compare x)) :
    c.Leaf raw x ∧ c.CaseAllows x.comparator := by
  cases h with
  | compare hleaf hcase => exact ⟨hleaf, hcase⟩

/-- A part that is a disjunction compares at least two fields in one way. -/
theorem any_uniform {gs : List Filter} (h : Part c raw (.any gs)) :
    2 ≤ gs.length ∧
      ∃ comparator value, ∀ g ∈ gs, ∃ field, g = .compare ⟨field, comparator, value⟩ := by
  cases h with
  | @any fields comparator value hlength =>
    refine ⟨by simpa using hlength, comparator, value, fun g hg => ?_⟩
    obtain ⟨field, -, rfl⟩ := List.mem_map.1 hg
    exact ⟨field, rfl⟩

private theorem not_membership (h : Part c raw (.not f)) : f.IsMembership := by
  cases h with
  | not hmembership => exact hmembership

/-- A negation can only be the root of a part. -/
theorem ne_not_of_mem_inner (h : Part c raw f) (hg : g ∈ f.inner) (k : Filter) : g ≠ .not k := by
  -- Below a comparison there is nothing, below a disjunction there are comparisons, and below a negation
  -- there is a membership test.
  cases h with
  | compare => simp [Filter.inner_compare] at hg
  | any =>
    rw [Filter.inner_any_map_compare] at hg
    obtain ⟨field, -, rfl⟩ := List.mem_map.1 hg
    exact nofun
  | not hmembership =>
    rw [Filter.inner_not] at hg
    exact hmembership.ne_not_of_mem_subfilters hg k

end Part

/-- The subtrees of a filter whose conjuncts are parts are parts, but for a conjunction at the
    root. -/
theorem part_of_mem_subfilters (h : ∀ n ∈ f.conjuncts, Part c raw n) (hg : g ∈ f.subfilters)
    (hall : ∀ gs, g ≠ .all gs) : Part c raw g := by
  cases Filter.eq_or_exists_conjunct_of_mem_subfilters hg with
  | inl hroot =>
    obtain ⟨gs, hgs⟩ := hroot
    exact absurd hgs (hall gs)
  | inr hconjunct =>
    obtain ⟨n, hn, hgn⟩ := hconjunct
    exact (h n hn).of_mem_subfilters hgn

/-- A filter whose conjuncts are parts is well formed. -/
theorem wellFormed_of_conjuncts (h : ∀ n ∈ f.conjuncts, Part c raw n) : c.WellFormed raw f := by
  -- A leaf is a subtree and no conjunction, so it is a part.
  have hleaf : ∀ x ∈ f.comparisons, c.Leaf raw x ∧ c.CaseAllows x.comparator := fun x hx =>
    (part_of_mem_subfilters h (Filter.compare_mem_subfilters f hx) nofun).leaf
  constructor
  case no_all_inner =>
    intro g hg
    -- Below the root every subtree stands in a conjunct, so the exception is ruled out.
    obtain ⟨n, hn, hgn⟩ := Filter.exists_conjunct_of_mem_inner hg
    exact ((h n hn).of_mem_subfilters hgn).ne_all
  case any_uniform => exact fun gs hgs => (part_of_mem_subfilters h hgs nofun).any_uniform
  case not_membership => exact fun g hg => (part_of_mem_subfilters h hg nofun).not_membership
  -- Both shapes are no conjunction, so the subtree is a part.
  case no_not_inner =>
    intro g hg hshape
    have hall : ∀ gs, g ≠ .all gs := by
      intro gs hgs
      simp [hgs] at hshape
    exact fun m hm => (part_of_mem_subfilters h hg hall).ne_not_of_mem_inner hm
  case leaves => exact fun x hx => (hleaf x hx).1
  case sameCase => exact fun x hx => (hleaf x hx).2.1
  case anyCase => exact fun x hx => (hleaf x hx).2.2

/-! ## The conjuncts of a request's tree -/

/-- A configured condition is an exact comparison. -/
private theorem part_of_mem_exactComparisons {filter : Option FilterMap} {n : Filter}
    (h : n ∈ exactComparisons filter)
    (hleaf : ∀ x, .compare x ∈ exactComparisons filter → c.Leaf raw x) : Part c raw n := by
  obtain ⟨m, hm, field, value, hentry, rfl⟩ := mem_exactComparisons_iff.1 h
  exact .compare (hleaf _ h) (by simp [CaseAllows])

/-- The comparator of an operator fits the case setting it was chosen by. -/
private theorem caseAllows_comparator (c : Config) (o : Operator) :
    c.CaseAllows (o.comparator c.caseSensitive) := by
  cases o <;> cases hc : c.caseSensitive <;> simp [CaseAllows, Operator.comparator, hc]

/-- The comparisons that a clause of a token asks for are a client's comparisons. -/
private theorem clientComparison_of_classify {token : List Char} {clause : Clause}
    {fields : List String} (hdelimiter : c.grammar.delimiter ∉ token)
    (hclause : c.grammar.classify token = some clause)
    (hvalue : clause.value.isEmpty = false) (hkey : c.mapping.get? clause.key = some fields) :
    ∀ field ∈ fields, c.ClientComparison
      ⟨field, clause.operator.comparator c.caseSensitive, clause.value⟩ := by
  intro field hfield
  refine ⟨⟨clause.key, fields, hkey, hfield⟩, ?_, ?_⟩
  -- Membership is what list operators ask for, and lists are what they read.
  · rw [Operator.comparator_eq_isIn_iff, Grammar.value_eq_list_iff_of_classify hclause]
  · exact Grammar.usable_of_classify hclause hdelimiter hvalue

/-- A key stands for at least one field. -/
theorem fields_ne_nil {key : String} {fields : List String}
    (h : c.mapping.get? key = some fields) : fields ≠ [] :=
  (c.sound.entries (key, fields) (Table.get?_eq_some_iff.1 h)).2.1

/-- One comparison, or a disjunction of several, of leaves is a part. -/
private theorem part_of_fanOut {comparator : Comparator} {value : Value} {fields : List String}
    {node : Filter} (h : FanOut comparator value fields node) (hne : fields ≠ [])
    (hleaf : ∀ field ∈ fields, c.Leaf raw ⟨field, comparator, value⟩)
    (hcase : c.CaseAllows comparator) : Part c raw node := by
  cases h with
  | one field => exact .compare (hleaf field (by simp)) hcase
  | several _ hlength =>
    -- Some field there is, and not just one.
    have hpos : 0 < fields.length := List.length_pos_iff.2 hne
    exact .any (by omega) hleaf hcase

/-- Fields that are compared by membership make a membership test. -/
private theorem isMembership_of_fanOut {value : Value} {fields : List String} {node : Filter}
    (h : FanOut .isIn value fields node) : node.IsMembership := by
  cases h with
  | one field => exact .inl ⟨_, rfl, rfl⟩
  | several =>
    refine .inr ⟨_, rfl, fun g hg => ?_⟩
    obtain ⟨field, -, rfl⟩ := List.mem_map.1 hg
    exact ⟨_, rfl, rfl⟩

/-- What a token contributes is a part. -/
private theorem part_of_contributes {token : List Char} {node : Filter} (hraw : raw ≠ none)
    (hdelimiter : c.grammar.delimiter ∉ token) (h : c.Contributes token node) :
    Part c raw node := by
  cases h with
  | positive hclause hvalue hkey _ hnode =>
    have hclient := clientComparison_of_classify hdelimiter hclause hvalue hkey
    exact part_of_fanOut hnode (fields_ne_nil hkey)
      (fun field hfield => .inr (.inr ⟨hraw, hclient field hfield⟩)) (caseAllows_comparator c _)
  -- The negated node is a part as well, and a membership test by its comparator.
  | negative hclause hvalue hkey hoperator hnode =>
    have hclient := clientComparison_of_classify hdelimiter hclause hvalue hkey
    refine .not ?_ (part_of_fanOut hnode (fields_ne_nil hkey)
      (fun field hfield => .inr (.inr ⟨hraw, hclient field hfield⟩)) (caseAllows_comparator c _))
    -- The comparator of negated membership is membership.
    rw [hoperator] at hnode
    exact isMembership_of_fanOut hnode

/-- The conjuncts of the tree of a request are parts. -/
theorem part_of_mem_conjuncts {n : Filter} (h : n ∈ (c.filter raw).conjuncts) :
    Part c raw n := by
  cases raw with
  -- Each source of conjuncts has its own kind of leaf.
  | none =>
    rw [filter_none_eq_all, Filter.conjuncts, List.mem_append] at h
    rcases h with h | h
    · exact part_of_mem_exactComparisons h fun x hx => .inl hx
    · exact part_of_mem_exactComparisons h fun x hx => .inr (.inl ⟨rfl, hx⟩)
  | some raw =>
    rw [conjuncts_filter_some, List.mem_append] at h
    rcases h with h | h
    · exact part_of_mem_exactComparisons h fun x hx => .inl hx
    · obtain ⟨t, ht, hn⟩ := List.mem_filterMap.1 h
      exact part_of_contributes (by simp) (Grammar.delimiter_notMem_of_mem_tokens ht)
        ((contributes_iff c t n).2 hn)

/-- The tree of every request is well formed. -/
theorem wellFormed_filter (c : Config) (raw : Option String) :
    c.WellFormed raw (c.filter raw) :=
  wellFormed_of_conjuncts fun _ hn => part_of_mem_conjuncts hn

end Config

end FilterQuery
