import FilterQuery.Proofs.FilterTree
import FilterQuery.Proofs.Markers

/-!
# Keys that a filter string can name

A configuration takes every row of key characters as a key. In the colon grammar a filter string
can name all of them. In the suffix grammar the marker of `lt`, which is tried first and needs no
brackets, cuts every text behind the shortest key it can find: a key that brings this marker with
it, or lets the underscores of the next one complete it, is never read to its end.

## Key results

- `Suffix.Shadowed`: the keys in which the first marker cuts too early
- `Suffix.key_ne_of_shadowed`: no token is read with such a key
- `Suffix.classify_lt_of_not_shadowed`: every other key is read in front of the marker of `lt`
- `Config.exists_clause_iff_not_shadowed`: which mapped keys a filter string can name
-/

namespace FilterQuery

/-- A token with a value is a filter string with that one clause. -/
private theorem Grammar.mem_tokenize_of_classify {g : Grammar} {token : List Char} {clause : Clause}
    (hdelimiter : g.delimiter ∉ token) (hclause : g.classify token = some clause)
    (hvalue : clause.value.isEmpty = false) : clause ∈ g.tokenize (String.ofList token) := by
  have hne : token ≠ [] := by
    rintro rfl
    cases g <;> exact nomatch hclause
  rw [g.tokenize_of_delimiter_notMem (by rwa [String.toList_ofList]) (by rwa [String.toList_ofList]),
    String.toList_ofList, clause?_eq_some_iff.2 ⟨hclause, hvalue⟩]
  exact List.mem_singleton_self clause

namespace Suffix

/-! ## Shadowed keys -/

/-- The marker of `lt` stands in the key behind a shorter key, or the two underscores that follow
    the key complete it there. -/
def Shadowed (key : String) : Prop :=
  ∃ shorter tail : String, shorter ≠ "" ∧ key ++ "__" = shorter ++ "__lt__" ++ tail

private theorem shadowed_iff (key : String) :
    Shadowed key ↔
      ∃ k s : List Char, k ≠ [] ∧ key.toList ++ ['_', '_'] = k ++ (marker .lt ++ s) := by
  constructor
  · intro h
    obtain ⟨shorter, tail, hne, hkey⟩ := h
    refine ⟨shorter.toList, tail.toList, by simpa using hne, ?_⟩
    simpa [marker, Operator.code] using congrArg String.toList hkey
  · intro h
    obtain ⟨k, s, hne, hkey⟩ := h
    refine ⟨String.ofList k, String.ofList s, by simpa using hne, ?_⟩
    rw [← String.toList_inj]
    simpa [marker, Operator.code] using hkey

/-- The comparison `lt` is tried before all other operators. -/
private theorem mem_earlier_of_ne_lt {o : Operator} (h : o ≠ .lt) : .lt ∈ earlier o := by
  cases o <;> simp_all [earlier, precedence]

/-- Behind a shorter key the marker of `lt` cuts every text that begins with a shadowed key and two
    underscores. -/
private theorem exists_shorter_cut {key : String} (h : Shadowed key) (hkey : isKey key.toList) :
    ∃ k s, k.length < key.toList.length ∧ ∀ t, Cuts .lt (key.toList ++ '_' :: '_' :: t) k (s ++ t) := by
  obtain ⟨k, s, hne, hks⟩ := (shadowed_iff key).1 h
  -- The marker has six characters, two of which may be the underscores behind the key.
  have hlength : key.toList.length + 2 = k.length + (6 + s.length) := by
    have hmarker : (marker .lt).length = 6 := by decide
    calc key.toList.length + 2
        = (key.toList ++ ['_', '_']).length := by simp
      _ = k.length + (6 + s.length) := by rw [hks, List.length_append, List.length_append, hmarker]
  -- The shorter key is a prefix of a row of key characters, and so a key itself.
  have hextended : isKey (key.toList ++ ['_', '_']) := isKey_append hkey (by simp [isKeyChar])
  have hk : isKey k := isKey_of_prefix ⟨marker .lt ++ s, hks.symm⟩ hne hextended
  refine ⟨k, s, by omega, fun t => ⟨hk, s ++ t, ?_, rfl⟩⟩
  calc key.toList ++ '_' :: '_' :: t
      = key.toList ++ ['_', '_'] ++ t := by simp
    _ = k ++ (marker .lt ++ s) ++ t := by rw [hks]
    _ = k ++ (marker .lt ++ (s ++ t)) := by simp

/-- No token is read with a shadowed key: the marker of `lt` cuts it behind the shorter key. -/
theorem key_ne_of_shadowed {key : String} (h : Shadowed key) {token : List Char} {clause : Clause}
    (hclause : classify token = some clause) : clause.key ≠ key := by
  rintro rfl
  obtain ⟨hearlier, v, hsplit, -⟩ := classify_eq_some_iff.1 hclause
  obtain ⟨⟨hkey, r, htoken, -⟩, hmin⟩ := split?_eq_some_iff.1 hsplit
  obtain ⟨k, s, hshorter, hcut⟩ := exists_shorter_cut h hkey
  rw [marker_append] at htoken
  rw [htoken] at hearlier hmin
  -- The shorter cut beats the clause's own if that is made by `lt`, and comes before it otherwise.
  by_cases ho : clause.operator = .lt
  · rw [ho] at hmin
    exact absurd (hmin k _ (hcut _)) (Nat.not_le_of_lt hshorter)
  · exact hearlier .lt (mem_earlier_of_ne_lt ho) k _ (hcut _)

/-- A marker of `lt` that begins in the key stands in the key and two underscores. -/
private theorem marker_lt_prefix_of_overlap {a s r : List Char} (ha : a ≠ [])
    (h : marker .lt ++ r = a ++ (marker .lt ++ s)) : marker .lt <+: a ++ ['_', '_'] := by
  have hlt : marker .lt = ['_', '_', 'l', 't', '_', '_'] := by decide
  have hlong : (marker .lt).length ≤ (a ++ ['_', '_']).length := by
    rw [hlt] at h ⊢
    -- With a shorter `a` an underscore of the second marker meets a letter of the first.
    match a with
    | [] => exact absurd rfl ha
    | [_] => simp at h
    | [_, _] => simp at h
    | [_, _, _] => simp at h
    | _ :: _ :: _ :: _ :: _ => simp
  -- Both are prefixes of the text, so the shorter is a prefix of the longer.
  have hleft : marker .lt <+: a ++ (marker .lt ++ s) := h ▸ List.prefix_append _ _
  have hright : a ++ ['_', '_'] <+: a ++ (marker .lt ++ s) := by
    rw [hlt]
    exact ⟨['l', 't', '_', '_'] ++ s, by simp⟩
  exact List.prefix_of_prefix_length_le hleft hright hlong

/-- A key that is not shadowed is read in front of the marker of `lt`. -/
theorem classify_lt_of_not_shadowed {key : String} (hkey : isKey key.toList)
    (h : ¬ Shadowed key) (v : List Char) :
    classify (key.toList ++ (marker .lt ++ v)) = some ⟨key, .lt, .single (String.ofList v)⟩ := by
  -- No operator is tried before `lt`, so only a shorter key could come first.
  have hfirst : ∀ p ∈ earlier .lt, ∀ k w, ¬ Cuts p (key.toList ++ (marker .lt ++ v)) k w := by
    intro p hp
    exact absurd hp (by simp [earlier, precedence])
  refine classify_eq_some_iff.2 ⟨hfirst, v, split?_eq_some_iff.2 ⟨⟨hkey, v, rfl, rfl⟩, ?_⟩, rfl⟩
  intro k w hcut
  obtain ⟨hk, r, htoken, -⟩ := hcut
  rcases List.append_eq_append_iff.1 htoken with ⟨a, hlonger, -⟩ | ⟨a, hshorter, hrest⟩
  · rw [hlonger, List.length_append]
    exact Nat.le_add_right ..
  -- A shorter key would shadow the key.
  by_cases ha : a = []
  · simp [hshorter, ha]
  · obtain ⟨s, hs⟩ := marker_lt_prefix_of_overlap ha hrest
    refine absurd ((shadowed_iff key).2 ⟨k, s, (isKey_iff.1 hk).1, ?_⟩) h
    rw [hshorter, List.append_assoc, hs]

/-- No clause of a filter string has a shadowed key. -/
private theorem key_ne_of_mem_tokenize {key raw : String} (h : Shadowed key) {clause : Clause}
    (hclause : clause ∈ Grammar.suffix.tokenize raw) : clause.key ≠ key := by
  obtain ⟨token, -, htoken⟩ := List.mem_filterMap.1 hclause
  exact key_ne_of_shadowed h (Grammar.clause?_eq_some_iff.1 htoken).1

/-- A key that is not shadowed is named by a clause of `lt` with the value zero. -/
private theorem exists_clause_of_not_shadowed {key : String} (hkey : isKey key.toList)
    (h : ¬ Shadowed key) : ∃ raw, ∃ clause ∈ Grammar.suffix.tokenize raw, clause.key = key := by
  have hdelimiter : '|' ∉ key.toList ++ (marker .lt ++ ['0']) := by
    rw [List.mem_append, List.mem_append, not_or, not_or]
    exact ⟨Grammar.suffix.delimiter_notMem_of_isKey hkey, delimiter_notMem_marker _, by decide⟩
  have hvalue : (Value.single (String.ofList ['0'])).isEmpty = false := by decide
  exact ⟨_, _, Grammar.mem_tokenize_of_classify hdelimiter
    (classify_lt_of_not_shadowed hkey h ['0']) hvalue, rfl⟩

end Suffix

namespace Colon

/-- Every key is read in front of the first colon. -/
theorem classify_of_isKey {key : String} (hkey : isKey key.toList) (v : List Char) :
    classify (key.toList ++ ':' :: v) =
      some ⟨key, (operatorAndText v).1, (operatorAndText v).1.readValue (operatorAndText v).2⟩ :=
  classify_eq_some_iff.2 ⟨hkey, v, _, rfl, rfl, rfl⟩

/-- In the colon grammar every key is named by a clause with the value zero. -/
private theorem exists_clause_of_isKey {key : String} (hkey : isKey key.toList) :
    ∃ raw, ∃ clause ∈ Grammar.colon.tokenize raw, clause.key = key := by
  have hdelimiter : '+' ∉ key.toList ++ [':', '0'] := by
    rw [List.mem_append, not_or]
    exact ⟨Grammar.colon.delimiter_notMem_of_isKey hkey, by decide⟩
  have hvalue : ((operatorAndText ['0']).1.readValue (operatorAndText ['0']).2).isEmpty = false := by
    decide
  exact ⟨_, _, Grammar.mem_tokenize_of_classify hdelimiter (classify_of_isKey hkey ['0']) hvalue, rfl⟩

end Colon

namespace Config

variable {c : Config} {key : String}

private theorem isKey_of_mem_keys (h : key ∈ c.mapping.keys) : isKey key.toList := by
  obtain ⟨e, he, rfl⟩ := List.mem_map.1 h
  exact (c.sound.entries e he).1

/-- A clause of a filter string with a mapped key puts its node among the conjuncts of the tree. -/
private theorem exists_node_mem_conjuncts {raw : String} {clause : Clause}
    (hclause : clause ∈ c.grammar.tokenize raw) (hkey : clause.key ∈ c.mapping.keys) :
    ∃ node, c.node? clause = some node ∧ node ∈ (c.filter (some raw)).conjuncts := by
  obtain ⟨node, hnode⟩ := exists_node?_iff.2 hkey
  obtain ⟨t, ht, htoken⟩ := List.mem_filterMap.1 hclause
  refine ⟨node, hnode, ?_⟩
  rw [conjuncts_filter_some, List.mem_append]
  exact .inr (List.mem_filterMap.2 ⟨t, ht, Option.bind_eq_some_iff.2 ⟨clause, htoken, hnode⟩⟩)

/-- A filter string can name a key in a clause exactly when the grammar reads colons or the key is
    not shadowed; and the node of every clause with the key is a conjunct of the tree. -/
theorem exists_clause_iff_not_shadowed (c : Config) (key : String) (hkey : key ∈ c.mapping.keys) :
    ((∃ raw, ∃ clause ∈ c.grammar.tokenize raw, clause.key = key) ↔
        ¬ (c.grammar = .suffix ∧ Suffix.Shadowed key)) ∧
      ∀ raw, ∀ clause ∈ c.grammar.tokenize raw, clause.key = key →
        ∃ node, c.node? clause = some node ∧ node ∈ (c.filter (some raw)).conjuncts := by
  refine ⟨⟨fun h hshadowed => ?_, fun h => ?_⟩, fun raw clause hclause hk => ?_⟩
  · obtain ⟨raw, clause, hclause, hk⟩ := h
    rw [hshadowed.1] at hclause
    exact Suffix.key_ne_of_mem_tokenize hshadowed.2 hclause hk
  · have hisKey := isKey_of_mem_keys hkey
    -- Each grammar has its own filter string for the key.
    cases hgrammar : c.grammar with
    | suffix => exact Suffix.exists_clause_of_not_shadowed hisKey fun hs => h ⟨hgrammar, hs⟩
    | colon => exact Colon.exists_clause_of_isKey hisKey
  · exact exists_node_mem_conjuncts hclause (hk ▸ hkey)

/-- Options that map two keys with markers in them. -/
def markerDraft : Draft :=
  .ofMapping (.ofSteps [.field "a__lt__b" "total", .field "a__gt__b" "count"])

/-- The options are sound. -/
def markerConfig : Config := ⟨markerDraft, Draft.firstDefect_eq_none_iff.1 (by decide)⟩

/-- The statement at a key that holds the marker of an operator tried later: the key can be named,
    and its field is compared. -/
theorem exists_clause_iff_not_shadowed_later_marker :
    "a__gt__b" ∈ markerConfig.mapping.keys ∧
      (⟨"a__gt__b", .lt, .single "5"⟩ : Clause) ∈ markerConfig.grammar.tokenize "a__gt__b__lt__5" ∧
      ¬ (markerConfig.grammar = .suffix ∧ Suffix.Shadowed "a__gt__b") ∧
      ∃ node, markerConfig.node? ⟨"a__gt__b", .lt, .single "5"⟩ = some node ∧
        node ∈ (markerConfig.filter (some "a__gt__b__lt__5")).conjuncts := by
  have hkey : "a__gt__b" ∈ markerConfig.mapping.keys := by decide
  have hclause : (⟨"a__gt__b", .lt, .single "5"⟩ : Clause) ∈
      markerConfig.grammar.tokenize "a__gt__b__lt__5" := by
    decide
  obtain ⟨hiff, hnode⟩ := exists_clause_iff_not_shadowed markerConfig "a__gt__b" hkey
  exact ⟨hkey, hclause, hiff.1 ⟨_, _, hclause, rfl⟩, hnode _ _ hclause rfl⟩

/-- A configuration may map a key that no filter string can name. -/
theorem shadowed_key_is_accepted :
    markerDraft.build = .ok markerConfig ∧ markerConfig.grammar = .suffix ∧
      "a__lt__b" ∈ markerConfig.mapping.keys ∧
      ∀ raw, ∀ clause ∈ markerConfig.grammar.tokenize raw, clause.key ≠ "a__lt__b" := by
  refine ⟨Draft.build_eq_ok_iff.2 rfl, rfl, by decide, fun raw clause hclause => ?_⟩
  have hshadowed : Suffix.Shadowed "a__lt__b" := ⟨"a", "b__", by decide, by decide⟩
  exact Suffix.key_ne_of_mem_tokenize hshadowed hclause

end Config

end FilterQuery
