import FilterQuery.Proofs.FilterTree
import FilterQuery.Proofs.Markers
import FilterQuery.Proofs.SuffixLanguage
import Mathlib.Data.List.Infix

/-!
# Clauses as clients write them

A client writes a clause of the suffix grammar as a key, a marker and a rest, `Suffix.Parts`, and
the rest is often text that somebody else has typed. The grammar reads the text as a whole, so the
rest can bring in a marker that is tried before the clause's own. This file says how far that goes
when no key has a double underscore: the clause may be lost, but it never speaks of another key.

## Key results

- `Suffix.Parts.Plain.read_or_key_doubled`: a text is read as its parts, or with a key that has a double
  underscore
- `Suffix.Parts.Plain.split?_text`: the clause's own operator cuts the text behind its key
- `Config.filter_parts_keeps_target`: a filter string of such texts asks for nothing else than its parts
- `Suffix.Parts.tokenize_text_eq_iff`: when a rest without earlier markers is read as it stands
- `Suffix.Parts.tokenize_text_across_boundary`: a rest without earlier markers that is not
-/

namespace FilterQuery

namespace Suffix

/-! ## The parts of a clause -/

/-- A clause as a client writes it: the rest is text that nobody has read as a value. -/
structure Parts where
  key : String
  operator : Operator
  rest : String

namespace Parts

/-- The text of a clause: the key, the operator's code between double underscores, the rest. -/
def text (p : Parts) : String :=
  p.key ++ "__" ++ p.operator.code ++ "__" ++ p.rest

/-- The key is a key without a double underscore, and the rest is any text without the delimiter. -/
structure Plain (p : Parts) : Prop where
  isKey_key : isKey p.key.toList
  key_not_doubled : ¬ ['_', '_'] <:+: p.key.toList
  delimiter_notMem_rest : '|' ∉ p.rest.toList

instance (p : Parts) : Decidable p.Plain :=
  decidable_of_iff (isKey p.key.toList ∧ ¬ ['_', '_'] <:+: p.key.toList ∧ '|' ∉ p.rest.toList)
    ⟨fun h => ⟨h.1, h.2.1, h.2.2⟩, fun h => ⟨h.1, h.2, h.3⟩⟩

theorem toList_text (p : Parts) :
    p.text.toList = p.key.toList ++ (marker p.operator ++ p.rest.toList) := by
  simp [text, marker]

variable {p : Parts}

/-- The text of plain parts holds no bar. -/
theorem Plain.delimiter_notMem_text (h : p.Plain) : '|' ∉ p.text.toList := by
  rw [toList_text, List.mem_append, List.mem_append, not_or, not_or]
  exact ⟨Grammar.suffix.delimiter_notMem_of_isKey h.isKey_key, delimiter_notMem_marker _,
    h.delimiter_notMem_rest⟩

theorem Plain.text_ne_nil (h : p.Plain) : p.text.toList ≠ [] := by
  rw [toList_text]
  exact List.append_ne_nil_of_left_ne_nil (isKey_iff.1 h.isKey_key).1 _

/-- Texts of parts are the tokens of the filter string that they are joined to. -/
private theorem tokens_join {parts : List Parts} (h : ∀ p ∈ parts, p.Plain) :
    Grammar.suffix.tokens ("|".intercalate (parts.map text)).toList =
      parts.map fun p => p.text.toList := by
  have hwords : ∀ w ∈ parts.map (fun p => p.text.toList), '|' ∉ w ∧ w ≠ [] := by
    intro w hw
    obtain ⟨p, hp, rfl⟩ := List.mem_map.1 hw
    exact ⟨(h p hp).delimiter_notMem_text, (h p hp).text_ne_nil⟩
  -- Without bars in them the texts are the pieces again, and none is dropped as empty.
  rw [String.toList_intercalate, List.map_map]
  exact Text.words_intercalate hwords

/-! ## What a text is read as -/

/-- A cut of the text is at the clause's own marker, or its key goes on behind the parts' key with a
    double underscore. -/
private theorem Plain.cut_eq_or_key_extends (h : p.Plain) {o : Operator} {k v : List Char}
    (hcut : Cuts o p.text.toList k v) :
    (k = p.key.toList ∧ o = p.operator ∧ payload? o p.rest.toList = some v) ∨
      p.key.toList ++ ['_', '_'] <+: k := by
  obtain ⟨-, r, htext, hr⟩ := hcut
  rw [toList_text] at htext
  -- The cut's marker is the own one, or it stands behind the own key and code.
  rcases own_marker_or_later h.key_not_doubled htext with ⟨hkey, ho, hrest⟩ | ⟨y, hkey, -⟩
  · exact .inl ⟨hkey, ho, hrest ▸ hr⟩
  · exact .inr ⟨p.operator.code.toList ++ y, by simp [hkey]⟩

/-- A text is read as its parts, or with a key that has a double underscore. -/
theorem Plain.read_or_key_doubled (h : p.Plain) {clause : Clause}
    (hclause : classify p.text.toList = some clause) :
    (clause.key = p.key ∧ clause.operator = p.operator ∧
        Denotes p.operator p.rest clause.value) ∨ ['_', '_'] <:+: clause.key.toList := by
  obtain ⟨-, v, hsplit, hvalue⟩ := classify_eq_some_iff.1 hclause
  rcases h.cut_eq_or_key_extends (cuts_of_split? hsplit) with ⟨hkey, ho, hv⟩ | hextends
  · -- At the own marker the cut leaves the rest as it was written.
    refine .inl ⟨String.toList_inj.1 hkey, ho, ?_⟩
    rw [← ho]
    exact (denotes_iff _ _ _).2 ⟨v, hv, hvalue⟩
  · exact .inr ((List.suffix_append _ _).isInfix.trans hextends.isInfix)

/-- The operator of the parts cuts the text behind their key, for no key is shorter. -/
theorem Plain.split?_text (h : p.Plain) {v : List Char}
    (hv : payload? p.operator p.rest.toList = some v) :
    split? p.operator p.text.toList = some (p.key.toList, v) := by
  refine split?_eq_some_iff.2 ⟨⟨h.isKey_key, p.rest.toList, toList_text p, hv⟩, ?_⟩
  intro k w hcut
  -- Every other key of a cut by this operator goes on behind the own one.
  rcases h.cut_eq_or_key_extends hcut with ⟨hkey, -, -⟩ | hextends
  · exact Nat.le_of_eq (by rw [hkey])
  · exact ((List.prefix_append _ _).trans hextends).length_le

/-! ## Rests without earlier markers -/

/-- The rest completes a marker of the operator that begins with underscores in front of it: it
    begins with the operator's code and two underscores, or with one underscore more, and for a
    list operator a bracketed text follows. -/
def Completes (q : Operator) (rest : String) : Prop :=
  ∃ tail : String, (rest = q.code ++ "__" ++ tail ∨ rest = "_" ++ q.code ++ "__" ++ tail) ∧
    (q.takesList → ∃ inner, tail = "[" ++ inner ++ "]")

/-- Another operator cuts a text whose rest has none of its markers exactly when the rest completes
    one. -/
private theorem Plain.exists_cut_iff_completes (h : p.Plain) {q : Operator} (hq : q ≠ p.operator)
    (hrule : ¬ marker q <:+: p.rest.toList) :
    (∃ k v, Cuts q p.text.toList k v) ↔ Completes q p.rest := by
  constructor
  · intro hcuts
    obtain ⟨k, v, -, r, htext, hv⟩ := hcuts
    rw [toList_text] at htext
    -- The cut is not at the clause's own marker, and the rest holds no marker by itself.
    rcases own_marker_or_later h.key_not_doubled htext with ⟨-, howner, -⟩ | ⟨y, -, hrest⟩
    · exact absurd howner hq
    rcases infix_or_completes hrest with hinfix | hcompletes
    · exact absurd hinfix hrule
    refine ⟨String.ofList r, ?_, (exists_payload?_iff q _).1 ⟨v, by rwa [String.toList_ofList]⟩⟩
    simpa [← String.toList_inj] using hcompletes
  · intro hcompletes
    obtain ⟨tail, hrest, htail⟩ := hcompletes
    obtain ⟨v, hv⟩ := (exists_payload?_iff q tail).2 htail
    -- The key is the parts' key and the marker, less the underscores that the rest makes use of.
    rcases hrest with hrest | hrest
    · refine ⟨p.key.toList ++ '_' :: '_' :: p.operator.code.toList, v,
        isKey_append_of_subset_marker h.isKey_key (o := p.operator) ?_, tail.toList, ?_, hv⟩
      · exact List.subset_append_left ..
      · rw [toList_text, hrest]
        simp [marker]
    · refine ⟨p.key.toList ++ ('_' :: '_' :: p.operator.code.toList ++ ['_']), v,
        isKey_append_of_subset_marker h.isKey_key (o := p.operator) ?_, tail.toList, ?_, hv⟩
      · exact List.append_subset.2 ⟨List.subset_append_left .., by simp [marker]⟩
      · rw [toList_text, hrest]
        simp [marker]

/-- A text is read as its parts with the rest as it stands, if no operator that is tried before
    theirs cuts it. -/
private theorem Plain.classify_text_iff (h : p.Plain) (hsingle : p.operator.takesList = false) :
    classify p.text.toList = some ⟨p.key, p.operator, .single p.rest⟩ ↔
      ∀ q ∈ earlier p.operator, ¬ ∃ k v, Cuts q p.text.toList k v := by
  have hpayload : payload? p.operator p.rest.toList = some p.rest.toList := by
    simp [payload?, hsingle]
  have hvalue : .single p.rest = p.operator.readValue p.rest.toList := by
    simp [Operator.readValue, hsingle]
  rw [classify_eq_some_iff]
  constructor
  · intro hclassify q hq hcuts
    obtain ⟨k, v, hcut⟩ := hcuts
    exact hclassify.1 q hq k v hcut
  · intro hearlier
    exact ⟨fun q hq k v hcut => hearlier q hq ⟨k, v, hcut⟩, _, h.split?_text hpayload, hvalue⟩

/-- A text whose rest holds no marker of an operator that is tried before its own is read as its
    parts exactly when the rest completes no such marker with the underscores in front of it. -/
theorem tokenize_text_eq_iff (p : Parts) (h : p.Plain) (hsingle : p.operator.takesList = false)
    (hrest : p.rest ≠ "") (hrule : ∀ q ∈ earlier p.operator, ¬ marker q <:+: p.rest.toList) :
    Grammar.suffix.tokenize p.text = [⟨p.key, p.operator, .single p.rest⟩] ↔
      ∀ q ∈ earlier p.operator, ¬ Completes q p.rest := by
  -- A text of plain parts is one token, and its value is not empty.
  have htoken : Grammar.suffix.tokenize p.text = [⟨p.key, p.operator, .single p.rest⟩] ↔
      classify p.text.toList = some ⟨p.key, p.operator, .single p.rest⟩ := by
    rw [Grammar.tokenize_of_delimiter_notMem _ h.delimiter_notMem_text h.text_ne_nil,
      Option.toList_eq_singleton_iff, Grammar.clause?_eq_some_iff]
    exact and_iff_left (by simp [Value.isEmpty, hrest])
  rw [htoken, h.classify_text_iff hsingle]
  exact forall₂_congr fun q hq =>
    not_congr (h.exists_cut_iff_completes (ne_of_mem_earlier hq) (hrule q hq))

/-- The statement at a rest that would complete the marker of `in` if a bracketed text followed. -/
theorem tokenize_text_eq_iff_unbracketed :
    let p : Parts := ⟨"st_", .contains, "in__b"⟩
    p.Plain ∧ p.operator.takesList = false ∧ p.rest ≠ "" ∧
      (∀ q ∈ earlier p.operator, ¬ marker q <:+: p.rest.toList) ∧
      Grammar.suffix.tokenize "st___co__in__b" = [⟨"st_", .contains, .single "in__b"⟩] ∧
      ∀ q ∈ earlier p.operator, ¬ Completes q p.rest := by
  intro p
  have hplain : p.Plain := by decide
  have hrule : ∀ q ∈ earlier p.operator, ¬ marker q <:+: p.rest.toList := by decide
  have htokenize : Grammar.suffix.tokenize p.text = [⟨p.key, p.operator, .single p.rest⟩] := by decide
  exact ⟨hplain, rfl, by decide, hrule, htokenize,
    (tokenize_text_eq_iff p hplain rfl (by decide) hrule).1 htokenize⟩

/-- A rest may hold no marker and yet not be read: the underscores in front of it and its own first
    characters make one. The clause is then read with another key, and lost if that is not mapped. -/
theorem tokenize_text_across_boundary :
    Grammar.suffix.tokenize "a__co__lt__b" = [⟨"a__co", .lt, .single "b"⟩] ∧
      ¬ ∀ p : Parts, p.Plain → p.operator.takesList = false → p.rest ≠ "" →
        (∀ q ∈ earlier p.operator, ¬ marker q <:+: p.rest.toList) →
        Grammar.suffix.tokenize p.text = [⟨p.key, p.operator, .single p.rest⟩] := by
  have hread : Grammar.suffix.tokenize "a__co__lt__b" = [⟨"a__co", .lt, .single "b"⟩] := by decide
  refine ⟨hread, fun h => ?_⟩
  -- The rest holds no marker by itself, so the rule would have the parts read back.
  have hparts := h ⟨"a", .contains, "lt__b"⟩ (by decide) rfl (by decide) (by decide)
  exact absurd (hread.symm.trans hparts) (by decide)

end Parts

end Suffix

/-! ## Filter strings of parts -/

namespace Config

open Suffix (Parts Denotes)

variable {c : Config} {p : Parts}

/-- A text whose clause has a mapped key is read as its parts, if no mapped key has a double
    underscore. -/
private theorem clause_of_mapped_key (hgrammar : c.grammar = .suffix)
    (hmapping : ∀ key ∈ c.mapping.keys, ¬ ['_', '_'] <:+: key.toList) (hp : p.Plain)
    {clause : Clause} (hclause : c.grammar.classify p.text.toList = some clause)
    (hkey : clause.key ∈ c.mapping.keys) :
    clause.key = p.key ∧ clause.operator = p.operator ∧ Denotes p.operator p.rest clause.value := by
  rw [hgrammar] at hclause
  -- A key with a double underscore is not mapped.
  rcases hp.read_or_key_doubled hclause with hparts | hdoubled
  · exact hparts
  · exact absurd hdoubled (hmapping clause.key hkey)

/-- A text contributes nothing, or the node of its parts. -/
private theorem tokenNode?_text (hgrammar : c.grammar = .suffix)
    (hmapping : ∀ key ∈ c.mapping.keys, ¬ ['_', '_'] <:+: key.toList) (hp : p.Plain) :
    c.tokenNode? p.text.toList = none ∨
      ∃ value, Denotes p.operator p.rest value ∧ value.isEmpty = false ∧
        c.tokenNode? p.text.toList = c.node? ⟨p.key, p.operator, value⟩ := by
  cases hnode : c.tokenNode? p.text.toList with
  | none => exact .inl rfl
  | some node =>
    obtain ⟨clause, hclause, hn⟩ := Option.bind_eq_some_iff.1 hnode
    obtain ⟨hclassify, hvalue⟩ := Grammar.clause?_eq_some_iff.1 hclause
    obtain ⟨hkey, ho, hdenotes⟩ :=
      clause_of_mapped_key hgrammar hmapping hp hclassify (exists_node?_iff.1 ⟨node, hn⟩)
    -- A node comes from a mapped key, so the clause is that of the parts.
    refine .inr ⟨clause.value, hdenotes, hvalue, ?_⟩
    rw [← hkey, ← ho, hn]

/-- Text in the place of a value cannot turn a clause to another target. If no mapped key has a
    double underscore, the tree of a filter string that joins the texts of parts is made of the
    forced conditions and of what each text contributes by itself. That is nothing, or the node of
    the text's own key and operator with the value that its rest denotes; a text that is read with
    another key, operator or value is read with a key that is not mapped. -/
theorem filter_parts_keeps_target (c : Config) (hgrammar : c.grammar = .suffix)
    (hmapping : ∀ key ∈ c.mapping.keys, ¬ ['_', '_'] <:+: key.toList)
    (parts : List Parts) (hparts : ∀ p ∈ parts, p.Plain) :
    c.filter (some ("|".intercalate (parts.map Parts.text))) =
        .flat (exactComparisons c.forcedFilter)
          (parts.filterMap fun p => c.tokenNode? p.text.toList) ∧
      ∀ p ∈ parts,
        (c.tokenNode? p.text.toList = none ∨
          ∃ value, Denotes p.operator p.rest value ∧ value.isEmpty = false ∧
            c.tokenNode? p.text.toList = c.node? ⟨p.key, p.operator, value⟩) ∧
        ∀ clause, c.grammar.classify p.text.toList = some clause → clause.key ∈ c.mapping.keys →
          clause.key = p.key ∧ clause.operator = p.operator ∧
            Denotes p.operator p.rest clause.value := by
  refine ⟨?_, fun p hp => ⟨tokenNode?_text hgrammar hmapping (hparts p hp), fun clause => ?_⟩⟩
  -- The tokens of the joined texts are the texts, so the nodes are theirs one by one.
  · rw [filter_some_eq_flat, nodes, hgrammar, Suffix.Parts.tokens_join hparts, List.filterMap_map]
    rfl
  · exact clause_of_mapped_key hgrammar hmapping (hparts p hp)

/-- Two parts for tickets. The rest of the first holds the marker of an operator that is tried
    before its own. -/
def markerParts : List Parts := [⟨"st", .contains, "a__lt__b"⟩, ⟨"st", .notIn, "[a, b]"⟩]

/-- The statement at tickets: the first text is lost, and the second is the negated list. -/
theorem filter_parts_keeps_target_tickets :
    ticketConfig.grammar = .suffix ∧
      (∀ key ∈ ticketConfig.mapping.keys, ¬ ['_', '_'] <:+: key.toList) ∧
      (∀ p ∈ markerParts, p.Plain) ∧
      ticketConfig.filter (some "st__co__a__lt__b|st__ni__[a, b]") =
        .flat (exactComparisons ticketConfig.forcedFilter)
          [.not (.compare ⟨"status", .isIn, .list ["a", "b"]⟩)] ∧
      (∃ value, Denotes .notIn "[a, b]" value ∧ value.isEmpty = false ∧
        ticketConfig.tokenNode? "st__ni__[a, b]".toList = ticketConfig.node? ⟨"st", .notIn, value⟩) ∧
      ∀ clause, ticketConfig.grammar.classify "st__co__a__lt__b".toList = some clause →
        clause.key ∉ ticketConfig.mapping.keys := by
  have hmapping : ∀ key ∈ ticketConfig.mapping.keys, ¬ ['_', '_'] <:+: key.toList := by decide
  have hparts : ∀ p ∈ markerParts, p.Plain := by decide
  obtain ⟨htree, hkeeps⟩ := filter_parts_keeps_target ticketConfig rfl hmapping markerParts hparts
  have hjoin : "|".intercalate (markerParts.map Parts.text) = "st__co__a__lt__b|st__ni__[a, b]" := by
    decide
  have hnodes : (markerParts.filterMap fun p => ticketConfig.tokenNode? p.text.toList) =
      [.not (.compare ⟨"status", .isIn, .list ["a", "b"]⟩)] := by
    decide
  rw [hjoin, hnodes] at htree
  have hlist := (hkeeps ⟨"st", .notIn, "[a, b]"⟩ (by simp [markerParts])).1
  have hlost := (hkeeps ⟨"st", .contains, "a__lt__b"⟩ (by simp [markerParts])).2
  refine ⟨rfl, hmapping, hparts, htree, hlist.resolve_left (by decide), fun clause hclause hkey => ?_⟩
  -- With a mapped key the operator would be the one that was written, which it is not.
  obtain ⟨-, ho, -⟩ := hlost clause hclause hkey
  have hread : ticketConfig.grammar.classify "st__co__a__lt__b".toList =
      some ⟨"st__co__a", .lt, .single "b"⟩ := by
    decide
  rw [hread, Option.some.injEq] at hclause
  rw [← hclause] at ho
  exact nomatch ho

end Config

end FilterQuery
