import FilterQuery.CommandLine.Run
import FilterQuery.Proofs.WrittenJson
import FilterQuery.Query.Decode

/-!
# Queries in JSON

A query is written to JSON with nodes named after their kind and values that are a text or a list. No
name tells a value from another: whether it is a text or a list of texts is seen from the document. That
is enough, for filters of any shape and texts with any characters: each text of a query is JSON for one
document, and only this query is written to that document.

## Key results

- `Filter.textual_outline`: filters are made of texts, lists and objects
- `Filter.ofJson?_outline`: the document of a filter is read as the filter
- `Query.ofJson?_toJson`: the document of a query is read as the query
- `Query.eq_of_jsonText`: a JSON text determines its query
-/

namespace FilterQuery

/-! ## The document of a query is read back -/

/-- A list is read back when each of its members is. -/
private theorem mapM_map_eq_some {α β : Type} {write : α → β} {read? : β → Option α}
    (h : ∀ a, read? (write a) = some a) (as : List α) : (as.map write).mapM read? = some as := by
  induction as with
  | nil => rfl
  | cons a as ih =>
    rw [List.map_cons, List.mapM_cons, h, ih]
    rfl

/-- A value is read back: a string as a text, an array as a list. -/
theorem Value.ofJson?_outline (v : Value) : Value.ofJson? v.outline.toJson = some v := by
  cases v with
  | single s => rw [outline, Outline.toJson, ofJson?]
  | list items =>
    -- The two forms of a value are two kinds of document, so no name has to tell them apart.
    have hitem : ∀ s, Json.text? (Outline.text s).toJson = some s := by
      intro s
      rw [Outline.toJson, Json.text?]
    have hitems := mapM_map_eq_some hitem items
    rw [outline, Outline.toJson, Outline.listToJson_eq_map, List.map_map, ofJson?]
    exact congrArg (Option.map list) hitems

/-- A comparison is read back from its three members. -/
theorem Comparison.ofJson?_outline (c : Comparison) :
    Comparison.ofJson? c.outline.toJson = some c := by
  simp [outline, Outline.toJson, Outline.membersToJson, ofJson?, c.value.ofJson?_outline]

namespace Filter

mutual

/-- The document of a filter is read as the filter: the name of its one member tells the kind of the
    node. -/
theorem ofJson?_outline : (f : Filter) → ofJson? f.outline.toJson = some f
  -- The names of the four members differ, so at most one reading fits.
  | .compare c => by simp [outline, Outline.toJson, ofJson?, c.ofJson?_outline]
  | .all fs => by simp [outline, Outline.toJson, ofJson?, listOfJson?_outlines fs]
  | .any fs => by simp [outline, Outline.toJson, ofJson?, listOfJson?_outlines fs]
  | .not f => by simp [outline, Outline.toJson, ofJson?, ofJson?_outline f]

theorem listOfJson?_outlines :
    (fs : List Filter) → listOfJson? (Outline.listToJson (outlines fs)) = some fs
  | [] => by rw [outlines, Outline.listToJson, listOfJson?]
  | f :: fs => by
    simp [outlines, Outline.listToJson, listOfJson?, ofJson?_outline f, listOfJson?_outlines fs]

end

end Filter

theorem SortTerm.ofJson?_outline (t : SortTerm) : SortTerm.ofJson? t.outline.toJson = some t := by
  simp [outline, Outline.toJson, Outline.membersToJson, ofJson?]

/-- The document of a query is read as the query. -/
theorem Query.ofJson?_toJson (q : Query) : Query.ofJson? q.toJson = some q := by
  have horder : (Outline.listToJson (q.order.map SortTerm.outline)).mapM SortTerm.ofJson? =
      some q.order := by
    rw [Outline.listToJson_eq_map, List.map_map]
    exact mapM_map_eq_some SortTerm.ofJson?_outline q.order
  simp [toJson, outline, members, Outline.toJson, Outline.membersToJson, ofJson?,
    q.filter.ofJson?_outline, horder]

/-! ## It is made of texts -/

private theorem Outline.textual_list {os : List Outline} (h : ∀ o ∈ os, o.toJson.Textual) :
    (list os).toJson.Textual := by
  rw [toJson, listToJson_eq_map]
  exact .array (by simpa using h)

/-- A record of textual documents under distinct names is one. -/
private theorem Outline.textual_record {ms : List (String × Outline)} (hnames : (ms.map Prod.fst).Nodup)
    (h : ∀ m ∈ ms, m.2.toJson.Textual) : (record ms).toJson.Textual := by
  rw [toJson, membersToJson_eq_map]
  apply Json.Textual.object
  · simpa [Function.comp_def] using hnames
  · intro m hm
    obtain ⟨n, hn, rfl⟩ := List.mem_map.1 hm
    exact h n hn

/-- A textual document with a tag is one. -/
private theorem Outline.textual_variant {tag : String} {o : Outline} (h : o.toJson.Textual) :
    (variant tag o).toJson.Textual := by
  rw [toJson]
  exact .object (by simp) (by simpa using h)

/-- Values are strings or arrays of strings. -/
theorem Value.textual_outline (v : Value) : v.outline.toJson.Textual := by
  cases v with
  | single s => exact .string s
  | list items =>
    refine Outline.textual_list fun o ho => ?_
    obtain ⟨s, -, rfl⟩ := List.mem_map.1 ho
    exact .string s

/-- Comparisons are made of texts. -/
theorem Comparison.textual_outline (c : Comparison) : c.outline.toJson.Textual := by
  refine Outline.textual_record (by simp) ?_
  simp only [List.forall_mem_cons]
  exact ⟨.string c.field, .string c.comparator.tag, c.value.textual_outline, nofun⟩

namespace Filter

mutual

/-- Filters are made of texts, lists and objects. -/
theorem textual_outline : (f : Filter) → f.outline.toJson.Textual
  | .compare c => Outline.textual_variant c.textual_outline
  | .all fs => Outline.textual_variant (Outline.textual_list (textual_outlines fs))
  | .any fs => Outline.textual_variant (Outline.textual_list (textual_outlines fs))
  | .not f => Outline.textual_variant (textual_outline f)

theorem textual_outlines : (fs : List Filter) → ∀ o ∈ outlines fs, o.toJson.Textual
  | [] => nofun
  | f :: fs => List.forall_mem_cons.2 ⟨textual_outline f, textual_outlines fs⟩

end

end Filter

theorem SortTerm.textual_outline (t : SortTerm) : t.outline.toJson.Textual := by
  refine Outline.textual_record (by simp) ?_
  simp only [List.forall_mem_cons]
  exact ⟨.string t.field, .string t.direction.tag, nofun⟩

/-- The tree of a query has texts at its leaves, and its members have names of their own. -/
theorem Query.textual_toJson (q : Query) : q.toJson.Textual := by
  refine Outline.textual_record (by simp [members]) ?_
  have horder : ∀ o ∈ q.order.map SortTerm.outline, o.toJson.Textual := by
    intro o ho
    obtain ⟨t, -, rfl⟩ := List.mem_map.1 ho
    exact t.textual_outline
  simp only [members, List.forall_mem_cons]
  exact ⟨q.filter.textual_outline, Outline.textual_list horder, nofun⟩

/-! ## Its JSON texts -/

open CommandLine Json.Token

namespace Query

variable {q : Query}

/-- The JSON texts of a query: the one in one line, the answer of the program, and the answer as it is
    printed. -/
inductive WrittenAs (q : Query) : String → Prop where
  | compact : WrittenAs q q.toJson.compact
  | answer {s : String} (h : OutputFormat.json.render q = .ok s) : WrittenAs q s
  | printed {s : String} (h : OutputFormat.json.render q = .ok s) : WrittenAs q (asLine s)

/-- A query ends with a closing bracket, so printing takes nothing from it. -/
private theorem trimEnd_prettyChars (q : Query) :
    Text.trimEnd (q.toJson.prettyChars 0) = q.toJson.prettyChars 0 := by
  -- A query is an object with members, whose layout ends with the brace.
  have hlast : (q.toJson.prettyChars 0).getLast? = some '\x7d' := by
    rw [toJson, outline, members, Outline.toJson, Outline.membersToJson, Json.prettyChars]
    exact List.getLast?_concat
  rw [Text.trimEnd_eq_self_iff, hlast]
  rintro c ⟨⟩
  rfl

/-- Each text of a query is spelled by the tokens of its document. -/
private theorem WrittenAs.spelledBy {s : String} (h : q.WrittenAs s) :
    SpelledBy q.toJson.tokens s.toList := by
  have hpretty := q.textual_toJson.spelledBy_prettyChars 0
  cases h with
  | compact =>
    rw [Json.compact, String.toList_ofList]
    exact q.textual_toJson.spelledBy_compactChars
  | answer h =>
    obtain rfl := Except.ok.inj h
    rwa [Json.pretty, String.toList_ofList]
  -- Printing adds a line break, which spells no token.
  | printed h =>
    obtain rfl := Except.ok.inj h
    have hchars : (asLine q.toJson.pretty).toList = q.toJson.prettyChars 0 ++ ['\n'] := by
      rw [asLine, Json.pretty, String.toList_ofList, String.toList_ofList, trimEnd_prettyChars]
    have hline := hpretty.append (SpelledBy.blank (c := '\n') rfl .nil)
    rw [List.append_nil] at hline
    rwa [hchars]

/-- Each text of a query is JSON for its document. -/
theorem WrittenAs.parseWithin? {s : String} (h : q.WrittenAs s) {depth : Nat}
    (hdepth : q.toJson.height ≤ depth) : Json.parseWithin? depth s.toList = some q.toJson :=
  Json.parseWithin?_of_spelledBy q.textual_toJson.namesOnce hdepth h.spelledBy

/-- A JSON text determines its query: in one line, as the answer of the program and as it is printed, a
    query is well-formed JSON for one and the same document, which is read back as the query. So two
    queries never share a text. -/
theorem eq_of_jsonText (q : Query) :
    (∃ s, OutputFormat.json.render q = .ok s) ∧
      (∀ s, q.WrittenAs s → ∀ depth, q.toJson.height ≤ depth →
        Json.parseWithin? depth s.toList = some q.toJson) ∧
      Query.ofJson? q.toJson = some q ∧
      ∀ (r : Query) (s : String), q.WrittenAs s → r.WrittenAs s → q = r := by
  refine ⟨⟨_, rfl⟩, fun s hs depth hdepth => hs.parseWithin? hdepth, q.ofJson?_toJson, ?_⟩
  intro r s hq hr
  -- At a depth that is enough for both documents the text has one document only.
  have hqr :=
    (hq.parseWithin? (Nat.le_max_left _ _)).symm.trans (hr.parseWithin? (Nat.le_max_right _ _))
  have hdocument : q.toJson = r.toJson := Option.some.inj hqr
  -- The one document is read back as both queries.
  have hread := q.ofJson?_toJson.symm.trans (congrArg Query.ofJson? hdocument)
  exact Option.some.inj (hread.trans r.ofJson?_toJson)

/-- A query with quotes, backslashes and control characters in its texts. -/
def scrawledQuery : Query :=
  ⟨.not (.any [.compare ⟨"na\"me", .isIn, .list ["\\n", "\x01\n, \""]⟩, .all []]),
    [⟨"pk", .descending⟩]⟩

/-- The same query with its filter nowhere negated. -/
def plainQuery : Query :=
  ⟨.any [.compare ⟨"na\"me", .isIn, .list ["\\n", "\x01\n, \""]⟩, .all []],
    [⟨"pk", .descending⟩]⟩

/-- The statement at texts with escapes, seven arrays and objects deep. -/
theorem eq_of_jsonText_scrawled :
    scrawledQuery.WrittenAs scrawledQuery.toJson.compact ∧
      scrawledQuery.WrittenAs (asLine scrawledQuery.toJson.pretty) ∧
      scrawledQuery.toJson.height ≤ 7 ∧
      Json.parseWithin? 7 scrawledQuery.toJson.compact.toList = some scrawledQuery.toJson ∧
      Json.parseWithin? 7 (asLine scrawledQuery.toJson.pretty).toList = some scrawledQuery.toJson ∧
      ¬ plainQuery.WrittenAs scrawledQuery.toJson.compact := by
  obtain ⟨-, hparse, -, hunique⟩ := eq_of_jsonText scrawledQuery
  have hline : scrawledQuery.WrittenAs (asLine scrawledQuery.toJson.pretty) := .printed rfl
  have hheight : scrawledQuery.toJson.height ≤ 7 := by decide
  refine ⟨.compact, hline, hheight, hparse _ .compact 7 hheight, hparse _ hline 7 hheight, fun h => ?_⟩
  have hsame : scrawledQuery = plainQuery := hunique plainQuery _ .compact h
  exact absurd hsame (by decide)

end Query

end FilterQuery
