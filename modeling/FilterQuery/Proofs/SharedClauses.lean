import FilterQuery.Proofs.CanonicalText
import FilterQuery.Proofs.ListItems
import FilterQuery.Proofs.WrittenClause

/-!
# Clauses that both grammars express

The two grammars write the same clauses differently, and each misreads some values: the suffix
grammar those with a marker that is tried before the clause's own, the colon grammar substrings that
look like one of its special forms. A clause that neither misreads, `Clause.Shared`, can be written
in both, and a search endpoint that changes its grammar gives the same tree.

## Key results

- `Suffix.classify_write_of_shared`, `Colon.classify_write_of_shared`: each grammar reads a shared clause
  from its canonical text
- `Grammar.tokenize_write_of_shared`: each grammar reads back a list of shared clauses
- `Config.filter_suffix_eq_filter_colon`: two configurations that differ in grammar give one tree
-/

namespace FilterQuery

/-! ## Shared clauses -/

/-- A text that the colon grammar takes for a substring, for it has none of the special forms. The
    forms with a bar in front are not named here, because no shared clause holds a bar. -/
structure Colon.Bare (text : String) : Prop where
  not_less : ¬ ['<'] <+: text.toList
  not_greater : ¬ ['>'] <+: text.toList
  not_quoted : ∀ inner : String, text ≠ "\"" ++ inner ++ "\""
  not_listed : ∀ inner : String, text ≠ "[" ++ inner ++ "]"
  not_negated : ∀ inner : String, text ≠ "~[" ++ inner ++ "]"

/-- A single text is read as it stands behind an operator's marker and in its outer form. -/
structure SharedText (o : Operator) (text : String) : Prop where
  single : o.takesList = false
  no_earlier_marker : ∀ p ∈ Suffix.earlier o, ¬ Suffix.marker p <:+: ("__" ++ text).toList
  bare : o = .contains → Colon.Bare text

/-- A clause that both grammars express. -/
structure Clause.Shared (c : Clause) : Prop where
  isKey_key : isKey c.key.toList
  key_not_doubled : ¬ ['_', '_'] <:+: c.key.toList
  usable : ∀ g : Grammar, c.value.Usable g.delimiter
  list : ∀ items, c.value = .list items → c.operator.takesList
  text : ∀ text, c.value = .single text → SharedText c.operator text

namespace Clause.Shared

variable {c : Clause}

/-- The value is what the operator reads from the value's own text. -/
private theorem readValue_inner_eq (h : c.Shared) :
    c.operator.readValue c.value.inner.toList = c.value := by
  unfold Operator.readValue
  cases hv : c.value with
  | single text =>
    have hsingle := (h.text text hv).single
    simp [hsingle, Value.inner]
  -- The items of a usable list are those that joining and reading leaves alone.
  | list items =>
    have hread : (listItems (",".intercalate items).toList).map String.ofList = items := by
      refine map_listItems_intercalate_eq_iff.2 fun item hitem => ?_
      have husable := h.usable .suffix
      rw [hv] at husable
      obtain ⟨hne, htrim, hcomma, -⟩ := husable.2 item hitem
      exact ⟨hne, htrim, hcomma⟩
    rw [if_pos (h.list items hv), Value.inner, hread]

private theorem value_not_empty (h : c.Shared) : c.value.isEmpty = false := by
  have husable := h.usable .suffix
  cases hv : c.value with
  | single text =>
    rw [hv] at husable
    simpa [Value.isEmpty] using husable.1
  | list items =>
    rw [hv] at husable
    simpa [Value.isEmpty] using husable.1

end Clause.Shared

/-! ## The suffix grammar -/

namespace Suffix

/-- A canonical text as a key, an operator and a rest. -/
def canonicalParts (c : Clause) : Parts where
  key := c.key
  operator := c.operator
  rest := if c.operator.takesList then "[" ++ c.value.inner ++ "]" else c.value.inner

private theorem write_eq_text (c : Clause) : write c = (canonicalParts c).text := rfl

variable {c : Clause}

/-- The parts of a shared clause are plain: no bar anywhere, and no double underscore in the key. -/
private theorem plain_of_shared (h : c.Shared) : (canonicalParts c).Plain := by
  have hinner : '|' ∉ c.value.inner.toList := (h.usable .suffix).notMem_inner (by decide)
  refine ⟨h.isKey_key, h.key_not_doubled, ?_⟩
  unfold canonicalParts
  split <;> simp [hinner]

/-- Behind a key without a double underscore, what is between the brackets of a list completes no
    marker: a cut is at the clause's own. -/
private theorem eq_operator_of_cuts_bracketed {key s k v : List Char} {o q : Operator}
    (hkey : isKey key) (hdoubled : ¬ ['_', '_'] <:+: key)
    (hcut : Cuts q (key ++ (marker o ++ '[' :: (s ++ [']']))) k v) : q = o := by
  -- Up to the bracket there are only characters that a key may have.
  have hprefix : ∀ c ∈ key ++ marker o, isKeyChar c :=
    (isKey_iff.1 (isKey_append_of_subset_marker hkey (List.Subset.refl _))).2
  rw [← List.append_assoc] at hcut
  obtain ⟨-, t, hshort, -⟩ := (exists_cut_bracketed_iff hprefix).1 ⟨v, hcut⟩
  rcases own_marker_or_later (s := []) hdoubled (by simpa using hshort) with ⟨-, ho, -⟩ | ⟨y, -, hy⟩
  · exact ho
  · -- Two underscores alone are shorter than any marker.
    have hlength := congrArg List.length hy
    simp [marker] at hlength
    omega

/-- No operator that is tried before a shared clause's own cuts its canonical text. -/
private theorem not_cuts_earlier_of_shared (h : c.Shared) {q : Operator} (hq : q ∈ earlier c.operator)
    (k v : List Char) : ¬ Cuts q (write c).toList k v := by
  intro hcut
  rw [toList_write] at hcut
  cases hv : c.value with
  | single text =>
    obtain ⟨hsingle, hmarker, -⟩ := h.text text hv
    rw [hsingle, if_neg Bool.false_ne_true, hv] at hcut
    obtain ⟨-, r, htext, -⟩ := hcut
    -- The marker would be the own one, or stand in what follows the code, where the condition rules
    -- it out.
    rcases own_marker_or_later h.key_not_doubled htext with ⟨-, ho, -⟩ | ⟨y, -, hy⟩
    · exact ne_of_mem_earlier hq ho
    · exact hmarker q hq ⟨y, r, by simpa [Value.inner] using hy.symm⟩
  | list items =>
    rw [if_pos (h.list items hv)] at hcut
    exact ne_of_mem_earlier hq (eq_operator_of_cuts_bracketed h.isKey_key h.key_not_doubled hcut)

/-- A shared clause is read from its canonical text. -/
theorem classify_write_of_shared (h : c.Shared) : classify (write c).toList = some c := by
  have hpayload : payload? c.operator (canonicalParts c).rest.toList = some c.value.inner.toList := by
    rw [payload?_eq_some_iff]
    unfold canonicalParts
    split <;> simp
  -- With no earlier operator in the way, the shortest key is the one of the clause.
  have hsplit := (plain_of_shared h).split?_text hpayload
  rw [← write_eq_text] at hsplit
  exact classify_eq_some_iff.2
    ⟨fun q hq k v => not_cuts_earlier_of_shared h hq k v, _, hsplit, h.readValue_inner_eq.symm⟩

end Suffix

/-! ## The colon grammar -/

namespace Colon

/-- A bare text without bars has no special form. -/
private theorem form?_eq_none_of_bare {text : String} (h : Bare text) (hbar : '|' ∉ text.toList)
    (o : Operator) : form? o text.toList = none := by
  refine Option.eq_none_iff_forall_ne_some.2 fun v hv => ?_
  by_cases ho : o = .contains
  · subst ho
    exact nomatch hv
  have htext : text = (enclosure o).1 ++ String.ofList v ++ (enclosure o).2 := by
    rw [← String.toList_inj, (form?_eq_some_iff ho).1 hv]
    simp [enclose]
  -- Each form but the two with a bar is excluded by a field of its own.
  cases o with
  | contains => exact ho rfl
  | lt => exact h.not_less ⟨v, by rw [htext]; simp [enclosure]⟩
  | gt => exact h.not_greater ⟨v, by rw [htext]; simp [enclosure]⟩
  | le => exact hbar (by rw [htext]; simp [enclosure])
  | ge => exact hbar (by rw [htext]; simp [enclosure])
  | exact => exact h.not_quoted _ htext
  | isIn => exact h.not_listed _ htext
  | notIn => exact h.not_negated _ htext

/-- A shared clause is read from its canonical text. -/
theorem classify_write_of_shared {c : Clause} (h : c.Shared) :
    classify (write c).toList = some c := by
  -- Only a substring is written bare, and it must not look like another form.
  have hinner : c.operator = .contains → ∀ p, form? p c.value.inner.toList = none := by
    intro ho
    cases hv : c.value with
    | single text =>
      have hbar := (h.usable .suffix).notMem_inner (by decide)
      rw [hv] at hbar
      exact form?_eq_none_of_bare ((h.text text hv).bare ho) hbar
    | list items =>
      have hlist := h.list items hv
      rw [ho] at hlist
      exact nomatch hlist
  exact classify_eq_some_iff.2 ⟨h.isKey_key, _, _, toList_write c, operatorAndText_enclose hinner,
    h.readValue_inner_eq.symm⟩

end Colon

/-! ## Both grammars -/

namespace Grammar

/-- Each grammar reads a shared clause from its canonical text. -/
private theorem clause?_write_of_shared (g : Grammar) {c : Clause} (h : c.Shared) :
    g.clause? (g.write c).toList = some c := by
  refine clause?_eq_some_iff.2 ⟨?_, h.value_not_empty⟩
  cases g with
  | suffix => exact Suffix.classify_write_of_shared h
  | colon => exact Colon.classify_write_of_shared h

/-- Neither canonical text holds the delimiter of its grammar. -/
private theorem delimiter_notMem_write_of_shared (g : Grammar) {c : Clause} (h : c.Shared) :
    g.delimiter ∉ (g.write c).toList := by
  cases g with
  | suffix => exact Suffix.delimiter_notMem_write h.isKey_key (h.usable .suffix)
  | colon => exact Colon.delimiter_notMem_write h.isKey_key (h.usable .colon)

private theorem write_ne_nil (g : Grammar) (c : Clause) : (g.write c).toList ≠ [] := by
  cases g with
  | suffix => simp [write, Suffix.toList_write, Suffix.marker]
  | colon => simp [write, Colon.toList_write]

/-- Each grammar reads back a list of shared clauses. -/
theorem tokenize_write_of_shared (g : Grammar) {clauses : List Clause}
    (h : ∀ c ∈ clauses, c.Shared) :
    g.tokenize ((String.singleton g.delimiter).intercalate (clauses.map g.write)) = clauses := by
  have htexts : ∀ text ∈ clauses.map g.write, g.delimiter ∉ text.toList ∧ text.toList ≠ [] := by
    intro text htext
    obtain ⟨c, hc, rfl⟩ := List.mem_map.1 htext
    exact ⟨g.delimiter_notMem_write_of_shared (h c hc), g.write_ne_nil c⟩
  rw [tokenize, tokens_intercalate htexts, List.map_map, List.filterMap_map]
  calc clauses.filterMap (g.clause? ∘ String.toList ∘ g.write)
      = clauses.filterMap some :=
        List.filterMap_congr fun c hc => g.clause?_write_of_shared (h c hc)
    _ = clauses := List.filterMap_some

end Grammar

/-! ## Search endpoints -/

namespace Config

/-- The configuration with another grammar. -/
def withGrammar (c : Config) (g : Grammar) : Config where
  toDraft := { c.toDraft with grammar := g }
  sound := ⟨c.sound.mapping_ne_nil, c.sound.entries, c.sound.forcedFilter, c.sound.defaultFilter,
    c.sound.defaultOrder⟩

/-- Once its clauses are read, a filter string has lost all trace of the grammar. -/
private theorem filter_withGrammar (c : Config) (g : Grammar) (raw : String) :
    (c.withGrammar g).filter (some raw) = c.filterOfClauses (some (g.tokenize raw)) := rfl

/-- A search endpoint may change its grammar. If two configurations differ in their grammar only,
    the one gives for the suffix texts of shared clauses the tree that the other gives for their
    colon texts, and that is the tree of the clauses themselves: none is lost or misread. -/
theorem filter_suffix_eq_filter_colon (a b : Config) (ha : a.grammar = .suffix)
    (hb : b.toDraft = { a.toDraft with grammar := .colon }) (clauses : List Clause)
    (h : ∀ c ∈ clauses, c.Shared) :
    a.filter (some ("|".intercalate (clauses.map Suffix.write))) =
        b.filter (some ("+".intercalate (clauses.map Colon.write))) ∧
      a.filter (some ("|".intercalate (clauses.map Suffix.write))) =
        a.filterOfClauses (some clauses) := by
  -- Both configurations are the first one with a grammar put in.
  have hcolon : b = a.withGrammar .colon := Config.ext hb
  have hsuffix : a = a.withGrammar .suffix := by
    refine Config.ext ?_
    rw [withGrammar, ← ha]
  -- One proof for both: only the texts depend on the grammar.
  have hread : ∀ g : Grammar,
      (a.withGrammar g).filter
          (some ((String.singleton g.delimiter).intercalate (clauses.map g.write))) =
        a.filterOfClauses (some clauses) := by
    intro g
    -- Reading gives the clauses back, and from there on the grammar is not asked.
    rw [filter_withGrammar, g.tokenize_write_of_shared h]
  have hleft : a.filter (some ("|".intercalate (clauses.map Suffix.write))) =
      a.filterOfClauses (some clauses) := by
    rw [hsuffix]
    exact hread .suffix
  have hright : b.filter (some ("+".intercalate (clauses.map Colon.write))) =
      a.filterOfClauses (some clauses) := by
    rw [hcolon]
    exact hread .colon
  exact ⟨hleft.trans hright.symm, hleft⟩

/-- Three clauses for tickets. Each single text holds a marker or a quote, in a place where neither
    grammar minds it, and the list holds a marker that is tried before its own. -/
def sharedClauses : List Clause :=
  [⟨"q", .contains, .single "a\"b\""⟩, ⟨"st", .notIn, .list ["a__lt__b", "c d"]⟩,
    ⟨"st", .lt, .single "x__eq__<"⟩]

theorem shared_of_mem_sharedClauses : ∀ c ∈ sharedClauses, c.Shared := by
  have hbare : Colon.Bare "a\"b\"" := by
    -- Every special form begins with another character.
    refine ⟨by decide, by decide, ?_, ?_, ?_⟩ <;>
    · intro inner h
      simpa using congrArg (fun s => s.toList.head?) h
  unfold sharedClauses
  simp only [List.forall_mem_cons, List.not_mem_nil, false_implies, implies_true, and_true]
  refine ⟨?_, ?_, ?_⟩
  · exact ⟨by decide, by decide, fun g => by cases g <;> exact ⟨by decide, by decide⟩, nofun,
      fun text htext => by cases htext; exact ⟨rfl, by decide, fun _ => hbare⟩⟩
  · exact ⟨by decide, by decide, fun g => by cases g <;> exact ⟨by decide, by decide⟩,
      fun _ _ => rfl, nofun⟩
  · exact ⟨by decide, by decide, fun g => by cases g <;> exact ⟨by decide, by decide⟩, nofun,
      fun text htext => by cases htext; exact ⟨rfl, by decide, nofun⟩⟩

/-- The statement at tickets, whose clauses have different texts in the two grammars. -/
theorem filter_suffix_eq_filter_colon_tickets :
    ticketConfig.grammar = .suffix ∧ (∀ c ∈ sharedClauses, c.Shared) ∧
      ticketConfig.filter (some "q__co__a\"b\"|st__ni__[a__lt__b,c d]|st__lt__x__eq__<") =
        (ticketConfig.withGrammar .colon).filter (some "q:a\"b\"+st:~[a__lt__b,c d]+st:<x__eq__<") ∧
      ticketConfig.filter (some "q__co__a\"b\"|st__ni__[a__lt__b,c d]|st__lt__x__eq__<") =
        ticketConfig.filterOfClauses (some sharedClauses) := by
  have hsuffix : "|".intercalate (sharedClauses.map Suffix.write) =
      "q__co__a\"b\"|st__ni__[a__lt__b,c d]|st__lt__x__eq__<" := by
    decide
  have hcolon : "+".intercalate (sharedClauses.map Colon.write) =
      "q:a\"b\"+st:~[a__lt__b,c d]+st:<x__eq__<" := by
    decide
  rw [← hsuffix, ← hcolon]
  exact ⟨rfl, shared_of_mem_sharedClauses, filter_suffix_eq_filter_colon ticketConfig
    (ticketConfig.withGrammar .colon) rfl rfl sharedClauses shared_of_mem_sharedClauses⟩

end Config

end FilterQuery
