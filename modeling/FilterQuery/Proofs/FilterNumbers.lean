import FilterQuery.Proofs.Acceptance
import FilterQuery.Proofs.DocumentNames
import FilterQuery.Proofs.DocumentPlaces
import FilterQuery.Proofs.MemberOrder

/-!
# Numbers in filters

A filter compares with texts, and a number in a filter option of a document stands for its text. So an
integer literal may be written with quotes or without, as long as its number is written like the
literal, and that is so for 64-bit integers only. This file proves it for the literal in any text that
has it as the value of a field in a filter option.

## Key results

- `Config.ofDocument_congr_holdsAt`: a document is loaded alike with values of one text
- `Config.comparedText?_of_holdsAt`: what a filter option of a document compares a field with
- `Config.ofText_integerLiteral`: an integer literal in a filter
-/

namespace FilterQuery

open Json (HoldsAt Reading Uniformly AwaitsValue)

/-! ## One value of a filter option -/

/-- A fold does not tell two values of a key apart if no step of it does. -/
private theorem Pairs.foldlM_put_congr {α β σ ε : Type} [DecidableEq α]
    {f : σ → α × β → Except ε σ} {k : α}
    {v w : β} (h : ∀ s, f s (k, v) = f s (k, w)) (es : List (α × β)) (s : σ) :
    (put k v es).foldlM f s = (put k w es).foldlM f s := by
  -- The fold passes the same entries up to the place of the key, where the step is the same by
  -- hypothesis.
  induction es generalizing s with
  | nil => simp only [put, List.foldlM_cons, h]
  | cons e es ih =>
    obtain ⟨j, u⟩ := e
    by_cases hj : j = k
    · simp only [put, hj, if_true, List.foldlM_cons, h]
    · simp only [put, hj, if_false, List.foldlM_cons, ih]

/-- The document has the value as that of a field in an option. -/
private theorem Json.HoldsAt.exists_object {outer inner : String} {D : Json → Json}
    (hD : HoldsAt [outer, inner] D) :
    ∃ members entries, ∀ v,
      D v = .object (Pairs.put outer (.object (Pairs.put inner v entries)) members) := by
  cases hD with
  | member _ members hD =>
    cases hD with
    | member _ entries hD =>
      cases hD with
      | here => exact ⟨members, entries, fun _ => rfl⟩

/-- The text that a filter option compares a field with. -/
def Draft.comparedText? (d : Draft) (o : ConfigOption) (field : String) : Option String :=
  (d.filterOption o).bind (·.get? field)

namespace Config

variable {o : ConfigOption} {field : String} {D : Json → Json}

/-- A document is loaded alike with values of one text in a filter option. -/
theorem ofDocument_congr_holdsAt (ho : o = .forcedFilter ∨ o = .defaultFilter)
    (hD : HoldsAt [o.name, field] D) {v w : Json}
    (htext : Options.filterText? v = Options.filterText? w) : ofDocument (D v) = ofDocument (D w) := by
  obtain ⟨members, entries, hobject⟩ := hD.exists_object
  -- From the inside out: the entries of the filter, the member of the option, all members.
  have htable : ∀ place, Options.table Options.filterText? place (Pairs.put field v entries) =
      Options.table Options.filterText? place (Pairs.put field w entries) := by
    intro place
    refine Pairs.foldlM_put_congr (fun t => ?_) entries Table.empty
    simp only [htext]
  have hmember : ∀ options : Options,
      options.readMember o.name (.object (Pairs.put field v entries)) =
        options.readMember o.name (.object (Pairs.put field w entries)) := by
    intro options
    simp only [Options.readMember, ConfigOption.ofName?_name]
    rcases ho with rfl | rfl <;> simp only [Options.read, htable]
  have hmembers : Options.ofMembers (Pairs.put o.name (.object (Pairs.put field v entries)) members) =
      Options.ofMembers (Pairs.put o.name (.object (Pairs.put field w entries)) members) :=
    Pairs.foldlM_put_congr hmember members Options.absent
  rw [hobject, hobject, ofDocument, ofDocument, hmembers]

/-! ## What is compared -/

/-- The filter options of a document that is accepted are made of the conditions in it. -/
private theorem filterOption_of_ofDocument (ho : o = .forcedFilter ∨ o = .defaultFilter)
    {members : List (String × Json)} (hnames : (members.map Prod.fst).Nodup) {c : Config}
    (h : ofDocument (.object members) = .ok c) :
    c.filterOption o = Document.filterOf (Document.given members o) := by
  have hdescribes := describes_of_ofDocument h
  -- Only the draft of the configuration counts, and the document describes it.
  generalize c.toDraft = d at hdescribes ⊢
  cases hdescribes with
  | @intro _ options _ hmembers hd =>
    have hfree : ∀ m ∈ members, ∀ e, ¬ MemberFault m e := by
      refine not_firstFault_iff.1 fun e he => ?_
      rw [Options.ofMembers_eq_error_iff.2 he] at hmembers
      exact nomatch hmembers
    rw [Document.ofMembers_eq_ok hnames hfree] at hmembers
    obtain rfl := Except.ok.inj hmembers
    rw [Options.draft] at hd
    split at hd
    · simp at hd
    · -- With a field mapping, the draft has the filters that were read.
      obtain rfl := Except.ok.inj hd
      rcases ho with rfl | rfl <;> rfl

/-- The condition of an entry is its name and the text of its value. -/
private theorem condition?_eq_map (field : String) (v : Json) :
    Document.condition? (field, v) = (Options.filterText? v).map (field, ·) := by
  cases v with
  | bool b => cases b <;> rfl
  | null | number | string | array | object => rfl

/-- An entry of a filter is compared with its text. -/
private theorem get?_filterOf {entries : List (String × Json)} (hnames : (entries.map Prod.fst).Nodup)
    {v : Json} (hentry : (field, v) ∈ entries) {text : String}
    (htext : Options.filterText? v = some text) :
    (Document.filterOf (.object entries)).bind (·.get? field) = some text := by
  have hkeys : ((entries.filterMap Document.condition?).map Prod.fst).Nodup :=
    (Pairs.keys_filterMap_sublist Document.condition?_key entries).nodup hnames
  -- The keys being distinct, the condition of the entry is the one that the table has for its
  -- field.
  have hcondition : (field, text) ∈ entries.filterMap Document.condition? := by
    refine List.mem_filterMap.2 ⟨(field, v), hentry, ?_⟩
    rw [condition?_eq_map, htext, Option.map_some]
  show (Table.ofList (entries.filterMap Document.condition?)).get? field = some text
  rw [Table.get?_eq_some_iff, Table.entries_ofList hkeys]
  exact hcondition

/-- A document that is accepted compares the field with the text of the value in its place. -/
theorem comparedText?_of_holdsAt (ho : o = .forcedFilter ∨ o = .defaultFilter)
    (hD : HoldsAt [o.name, field] D) {v : Json} (hnames : (D v).NamesOnce) {text : String}
    (htext : Options.filterText? v = some text) {c : Config} (h : ofDocument (D v) = .ok c) :
    c.comparedText? o field = some text := by
  obtain ⟨members, entries, hobject⟩ := hD.exists_object
  rw [hobject] at h hnames
  have hmembers := Json.namesOnce_object_iff.1 hnames
  have hget : ∀ (name : String) (w : Json) (es : List (String × Json)),
      Pairs.get? name (Pairs.put name w es) = some w := by
    intro name w es
    rw [Pairs.get?_put, if_pos rfl]
  -- The value was put in its place last, so it is what the document gives to the option.
  have hgiven : Document.given (Pairs.put o.name (.object (Pairs.put field v entries)) members) o =
      .object (Pairs.put field v entries) := by
    rw [Document.given, hget, Option.getD_some]
  have hoption := hmembers.values _ (Pairs.mem_keys_of_get? (hget o.name _ members))
  have hentries := (Json.namesOnce_object_iff.1 hoption).nodup
  rw [Draft.comparedText?, filterOption_of_ofDocument ho hmembers.nodup h, hgiven]
  exact get?_filterOf hentries (Pairs.mem_keys_of_get? (hget field v entries)) htext

/-! ## Integer literals -/

/-- A text is loaded as its document. -/
private theorem ofText_json_eq {s : String} {doc : Option Json} (h : Json.parse? s = doc) :
    ofText .json s = doc.elim (.error .malformed) ofDocument := by
  rw [ofText, DocumentFormat.parse?, h]
  cases doc <;> rfl

/-- Values of one text are loaded alike, whatever else stands in the document. -/
private theorem elim_ofDocument_congr (ho : o = .forcedFilter ∨ o = .defaultFilter)
    {R : Json → Option Json}
    (hR : Uniformly (Reading [o.name, field]) R) {v w : Json}
    (htext : Options.filterText? v = Options.filterText? w) :
    (R v).elim (.error .malformed) ofDocument = (R w).elim (.error .malformed) ofDocument := by
  -- The text is no document with either value, or the value stands in one, or it was replaced
  -- there.
  rcases hR with hnone | ⟨X, hX, hsome⟩
  · rw [hnone, hnone]
  · rw [hsome, hsome]
    cases hX with
    | holds hD => exact ofDocument_congr_holdsAt ho hD htext
    | replaced doc => rfl

/-- An integer literal as the value of a field in a filter option of a JSON text, which ends where the
    text behind it begins. If it denotes a 64-bit integer, the text is loaded as with the literal in
    quotes. The field is compared with the literal exactly in this case, unless a later member takes
    the place of the value; then the configuration is the same with all such literals. -/
theorem ofText_integerLiteral {before after field : String} {o : ConfigOption}
    (ho : o = .forcedFilter ∨ o = .defaultFilter) (hbefore : AwaitsValue before [o.name, field])
    (hafter : ∀ c ∈ after.toList.head?, Json.Token.isNumberChar c = false) (l : IntegerLiteral) :
    (l.Fits → ofText .json (before ++ l.text ++ after) =
      ofText .json (before ++ ("\"" ++ l.text ++ "\"") ++ after)) ∧
    ∀ c, ofText .json (before ++ l.text ++ after) = .ok c →
      (∃ text, c.comparedText? o field = some text ∧ (text = l.text ↔ l.Fits)) ∨
      ∀ m : IntegerLiteral, m.Fits → ofText .json (before ++ m.text ++ after) = .ok c := by
  have hdepth : [o.name, field].length ≤ Json.maxDepth := by
    show 2 ≤ 127
    omega
  obtain ⟨R, hR, hquoted, hliteral⟩ := hbefore.exists_reading hdepth after
  -- A literal that fits is read as its integer, and the text as the document with this.
  have hload : ∀ m : IntegerLiteral, m.Fits → ofText .json (before ++ m.text ++ after) =
      (R (.number (.integer m.value))).elim (.error .malformed) ofDocument := by
    intro m hm
    have hparse := hliteral m hafter
    rw [IntegerLiteral.ofLiteral?_of_fits hm, Option.bind_some] at hparse
    exact ofText_json_eq hparse
  constructor
  · -- Quoted and bare, the literal stands for values of one text.
    intro hfits
    have hplain : ∀ c ∈ l.text.toList, Json.Token.IsPlain c := by
      rw [IntegerLiteral.text, String.toList_ofList]
      exact fun c hc => Json.Token.isPlain_of_mem hc
    have htext : Options.filterText? (.number (.integer l.value)) =
        Options.filterText? (.string l.text) :=
      congrArg some (IntegerLiteral.text_value_of_fits hfits)
    rw [hload l hfits, ofText_json_eq (hquoted l.text hplain)]
    exact elim_ofDocument_congr ho hR htext
  · intro c hc
    have hparse := hliteral l hafter
    rw [ofText_json_eq hparse] at hc
    -- The literal has a number, and the text is a document with it.
    cases hn : Number.ofLiteral? l.chars with
    | none => simp [hn] at hc
    | some n =>
      rw [hn, Option.bind_some] at hc hparse
      rcases hR with hnone | ⟨X, hX, hsome⟩
      · simp [hnone] at hc
      · rw [hsome] at hc hparse
        cases hX with
        | holds hD =>
          have hcompared := comparedText?_of_holdsAt ho hD (Json.namesOnce_of_parse? hparse) rfl hc
          exact .inl ⟨n.text, hcompared, IntegerLiteral.text_eq_iff_fits hn⟩
        | replaced doc =>
          refine .inr fun m hm => ?_
          rw [hload m hm, hsome]
          exact hc

/-- A JSON text up to the value of a forced condition. -/
def tenantText : String :=
  "\x7b\"field_mapping\": \x7b\"st\": \"status\"\x7d, \"forced_filter\": \x7b\"tenant\": "

/-- The reader of this text has two objects open. -/
theorem awaitsValue_tenantText : AwaitsValue tenantText [ConfigOption.forcedFilter.name, "tenant"] :=
  @AwaitsValue.intro _ _
    [.openObject, .string "field_mapping", .colon, .openObject, .string "st", .colon, .string "status",
      .closeObject, .comma, .string "forced_filter", .colon, .openObject, .string "tenant", .colon]
    [] "tenant" [([("field_mapping", .object [("st", .string "status")])], "forced_filter")]
    rfl rfl rfl

/-- The literal of the largest unsigned 64-bit integer. -/
def largestLiteral : IntegerLiteral where
  negative := false
  digits := "18446744073709551615".toList
  digits_ne_nil := by decide
  isDigit := List.all_eq_true.1 (by decide)
  eq_zero_of_head := by decide

/-- The statement at the largest unsigned 64-bit integer. -/
theorem ofText_integerLiteral_largest :
    AwaitsValue tenantText [ConfigOption.forcedFilter.name, "tenant"] ∧ largestLiteral.Fits ∧
      ofText .json (tenantText ++ "18446744073709551615" ++ "\x7d\x7d") =
        ofText .json (tenantText ++ "\"18446744073709551615\"" ++ "\x7d\x7d") ∧
      (ofText .json (tenantText ++ "18446744073709551615" ++ "\x7d\x7d")).toOption.bind
        (·.comparedText? .forcedFilter "tenant") = some "18446744073709551615" := by
  have hfits : largestLiteral.Fits := by decide +kernel
  have hafter : ∀ c ∈ "\x7d\x7d".toList.head?, Json.Token.isNumberChar c = false := by
    intro c hc
    obtain rfl : '\x7d' = c := Option.some.inj hc
    rfl
  obtain ⟨hquotes, -⟩ :=
    ofText_integerLiteral (.inl rfl) awaitsValue_tenantText hafter largestLiteral
  exact ⟨awaitsValue_tenantText, hfits, hquotes hfits, by decide +kernel⟩

/-- The negative zero and the integer after the largest are compared with the texts of doubles, so
    quotes make a difference. -/
theorem ofText_integerLiteral_not_kept :
    (ofText .json (tenantText ++ "-0" ++ "\x7d\x7d")).toOption.bind
        (·.comparedText? .forcedFilter "tenant") = some "-0.0" ∧
      (ofText .json (tenantText ++ "\"-0\"" ++ "\x7d\x7d")).toOption.bind
        (·.comparedText? .forcedFilter "tenant") = some "-0" ∧
      (ofText .json (tenantText ++ "18446744073709551616" ++ "\x7d\x7d")).toOption.bind
        (·.comparedText? .forcedFilter "tenant") = some "1.8446744073709552e+19" := by
  decide +kernel

end Config

end FilterQuery
