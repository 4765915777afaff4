import FilterQuery.Proofs.ConfigEquality
import FilterQuery.Proofs.DocumentNames
import FilterQuery.Proofs.DocumentShape
import FilterQuery.Proofs.NumberText
import Mathlib.Logic.Function.Basic

/-!
# Documents as settings

A document is another way of setting options one by one. This file lists the settings that the members
of a document stand for, `Document.settings`, and proves that a document without a fault loads as the
draft that these settings make, error for error and option for option. They differ in one point: an
object without entries makes an empty filter, where no setting makes none. No search sees that.

## Key results

- `Document.readMember_optionsOf`, `Document.ofMembers_eq_ok`: what reading a member does to the options,
  and reading all of them
- `Document.typed_eq`: what the settings of a document make
- `Config.search_congr`: what a search depends on
- `Config.ofDocument_eq_iff_loads`: a document loads as the settings of its members
-/

namespace FilterQuery

namespace Document

/-! ## The settings of a document -/

/-- The texts of a list. -/
def texts (items : List Json) : List String :=
  items.filterMap fun
    | .string s => some s
    | _ => none

/-- The step that an entry of a field mapping stands for. -/
def mappingStep? : String × Json → Option MappingStep
  | (key, .string field) => some (.field key field)
  | (key, .array items) => some (.fields key (texts items))
  | _ => none

/-- The field and the text that an entry of a filter stands for. -/
def condition? : String × Json → Option (String × String)
  | (field, .string s) => some (field, s)
  | (field, .number n) => some (field, n.text)
  | (field, .bool b) => some (field, if b then "true" else "false")
  | _ => none

/-- The steps that a field mapping stands for, one for each entry. -/
def mappingSteps : Json → List MappingStep
  | .object entries => entries.filterMap mappingStep?
  | _ => []

/-- The conditions that a filter stands for, one for each entry. -/
def conditions : Json → List (String × String)
  | .object entries => entries.filterMap condition?
  | _ => []

/-- The settings that the value of an option stands for. -/
def settings : ConfigOption → Json → List Setting
  | .forcedFilter, v => (conditions v).map fun (field, text) => .forced field text
  | .defaultFilter, v => (conditions v).map fun (field, text) => .byDefault field text
  | .defaultOrder, .array items => [.defaultOrder (texts items)]
  | .caseSensitive, .bool b => [.caseSensitive b]
  | .grammar, .string s => (Grammar.ofName? s).toList.map .grammar
  | _, _ => []

/-- The value that a document gives to an option; null stands for an absent one. -/
def given (members : List (String × Json)) (o : ConfigOption) : Json :=
  (Pairs.get? o.name members).getD .null

/-- The draft that results from the settings of a document. -/
def typed (members : List (String × Json)) : Draft :=
  (Draft.ofMapping (FieldMapping.ofSteps (mappingSteps (given members .fieldMapping)))).applyAll
    (ConfigOption.values.flatMap fun o => settings o (given members o))

/-- An object without entries is kept as an empty filter. -/
def keptFilter (v : Json) (filter : Option FilterMap) : Option FilterMap :=
  match v with
  | .object [] => some .empty
  | _ => filter

/-- The draft with the filters that the document gives without entries. -/
def keepEmptyFilters (members : List (String × Json)) (d : Draft) : Draft :=
  { d with
    forcedFilter := keptFilter (given members .forcedFilter) d.forcedFilter
    defaultFilter := keptFilter (given members .defaultFilter) d.defaultFilter }

/-! ## What reading members does -/

/-- The filter that a value stands for. -/
def filterOf : Json → Option FilterMap
  | .object entries => some (.ofList (conditions (.object entries)))
  | _ => none

/-- The field mapping that a value stands for. -/
def mappingOf : Json → Option FieldMapping
  | .object entries => some (FieldMapping.ofSteps (mappingSteps (.object entries)))
  | _ => none

/-- The default order that a value stands for. -/
def termsOf : Json → List String
  | .array items => texts items
  | _ => []

/-- The case setting that a value stands for. -/
def flagOf : Json → Bool
  | .bool b => b
  | _ => false

/-- The grammar that a value stands for. -/
def grammarOf : Json → Grammar
  | .string s => (Grammar.ofName? s).getD .suffix
  | _ => .suffix

/-- The options that result from values, null standing for an absent one. -/
def optionsOf (value : ConfigOption → Json) : Options where
  mapping := mappingOf (value .fieldMapping)
  forcedFilter := filterOf (value .forcedFilter)
  defaultFilter := filterOf (value .defaultFilter)
  defaultOrder := termsOf (value .defaultOrder)
  caseSensitive := flagOf (value .caseSensitive)
  grammar := grammarOf (value .grammar)

theorem texts_map_string (ts : List String) : texts (ts.map .string) = ts := by
  rw [texts, List.filterMap_map]
  exact List.filterMap_some

/-- The entries of an object without a fault are those that the option takes. -/
theorem not_entryFault_of_not_valueFault {o : ConfigOption} {entries : List (String × Json)}
    (h : ∀ e, ¬ ValueFault o (.object entries) e) : ∀ x ∈ entries, ∀ e, ¬ EntryFault o x e :=
  not_firstFault_iff.1 fun e he => h e (.entry he)

private theorem isTarget_of_not_entryFault {x : String × Json}
    (h : ∀ e, ¬ EntryFault .fieldMapping x e) :
    IsTarget x.2 :=
  Classical.byContradiction fun hx => h _ (.target hx)

/-- The value of an entry without a fault in a filter is a text, a number or a boolean. -/
private theorem isFilterValue_of_not_entryFault {o : ConfigOption}
    (ho : o = .forcedFilter ∨ o = .defaultFilter) {x : String × Json} (h : ∀ e, ¬ EntryFault o x e) :
    IsFilterValue x.2 := by
  refine Classical.byContradiction fun hx => ?_
  -- The two filters take the same values, each with its own fault.
  rcases ho with rfl | rfl
  · exact h _ (.forced hx)
  · exact h _ (.byDefault hx)

/-- Entries with targets are read as the field mapping of their steps. -/
private theorem table_targets {entries : List (String × Json)} (h : ∀ x ∈ entries, IsTarget x.2) :
    Options.table Options.targets? .target entries =
      .ok (FieldMapping.ofSteps (mappingSteps (.object entries))) := by
  -- Each entry is one step, and reading it and setting it put the same fields under the key.
  refine Options.table_eq_ok fun x hx => ?_
  obtain ⟨key, v⟩ := x
  have hv : IsTarget v := h (key, v) hx
  cases hv with
  | one field => exact ⟨.field key field, [field], rfl, rfl, fun _ => rfl⟩
  | several fields =>
    refine ⟨.fields key fields, fields, ?_, Options.texts?_map_string fields, fun _ => rfl⟩
    rw [mappingStep?, texts_map_string]

/-- Entries with filter values are read as the table of their conditions. -/
private theorem table_filterTexts (place : String → Place) {entries : List (String × Json)}
    (h : ∀ x ∈ entries, IsFilterValue x.2) :
    Options.table Options.filterText? place entries =
      .ok (.ofList (conditions (.object entries))) := by
  refine Options.table_eq_ok fun x hx => ?_
  obtain ⟨field, v⟩ := x
  have hv : IsFilterValue v := h (field, v) hx
  cases hv with
  | string s => exact ⟨(field, s), s, rfl, rfl, fun _ => rfl⟩
  | number n => exact ⟨(field, n.text), n.text, rfl, rfl, fun _ => rfl⟩
  | bool b => cases b <;> exact ⟨_, _, rfl, rfl, fun _ => rfl⟩

/-- Reading a value without a fault gives it to its option. -/
theorem readMember_optionsOf {value : ConfigOption → Json} {o : ConfigOption} {v : Json}
    (habsent : value o = .null) (h : ∀ e, ¬ ValueFault o v e) :
    (optionsOf value).readMember o.name v = .ok (optionsOf (Function.update value o v)) := by
  have hshape : HasShape o v := Classical.byContradiction fun hv => h _ (.shape hv)
  rw [Options.readMember, ConfigOption.ofName?_name]
  -- A value without a fault has the shape of its option, one case for each option.
  cases hshape with
  -- A null is what the option had before.
  | null => simp [← habsent]
  | fieldMapping entries =>
    have htable := table_targets fun x hx =>
      isTarget_of_not_entryFault (not_entryFault_of_not_valueFault h x hx)
    simp [Options.read, htable, optionsOf, mappingOf, bind, Except.bind, pure, Except.pure]
  | forcedFilter entries =>
    have htable := table_filterTexts (.filterValue .forcedFilter) fun x hx =>
      isFilterValue_of_not_entryFault (.inl rfl) (not_entryFault_of_not_valueFault h x hx)
    simp [Options.read, htable, optionsOf, filterOf, bind, Except.bind, pure, Except.pure]
  | defaultFilter entries =>
    have htable := table_filterTexts (.filterValue .defaultFilter) fun x hx =>
      isFilterValue_of_not_entryFault (.inr rfl) (not_entryFault_of_not_valueFault h x hx)
    simp [Options.read, htable, optionsOf, filterOf, bind, Except.bind, pure, Except.pure]
  | defaultOrder terms => simp [Options.read, optionsOf, termsOf, texts_map_string]
  | caseSensitive b => simp [Options.read, optionsOf, flagOf]
  | grammar g => simp [Options.read, optionsOf, grammarOf]

/-- Reading members without a fault gives each its value, if no two have one name. -/
private theorem foldlM_readMember_optionsOf {members : List (String × Json)}
    (value : ConfigOption → Json)
    (hnames : (members.map Prod.fst).Nodup)
    (habsent : ∀ o : ConfigOption, o.name ∈ members.map Prod.fst → value o = .null)
    (h : ∀ m ∈ members, ∀ e, ¬ MemberFault m e) :
    members.foldlM (fun options (name, v) => options.readMember name v) (optionsOf value) =
      .ok (optionsOf fun o => (Pairs.get? o.name members).getD (value o)) := by
  -- What was read before is general, for each member adds its value to it.
  induction members generalizing value with
  | nil => rfl
  | cons m members ih =>
    obtain ⟨name, v⟩ := m
    rw [List.forall_mem_cons] at h
    obtain ⟨hm, hmembers⟩ := h
    simp only [List.map_cons, List.nodup_cons] at hnames
    obtain ⟨hnew, hnames⟩ := hnames
    obtain ⟨o, rfl⟩ : ∃ o : ConfigOption, o.name = name := by
      refine Classical.byContradiction fun hno => hm _ (.unknown fun o ho => hno ⟨o, ho⟩)
    -- A name of no option would be a fault, so the member belongs to one.
    have hstep := readMember_optionsOf (habsent o (by simp))
      fun e he => hm e (memberFault_name_iff.2 he)
    -- The names are distinct, so the value that was just read is not one that is still to come.
    have hrest : ∀ p : ConfigOption, p.name ∈ members.map Prod.fst →
        Function.update value o v p = .null := by
      intro p hp
      have hpo : p ≠ o := by
        rintro rfl
        exact hnew hp
      rw [Function.update_of_ne hpo]
      exact habsent p (List.mem_cons_of_mem _ hp)
    simp only [List.foldlM_cons, hstep]
    refine (ih _ hnames hrest hmembers).trans ?_
    congr 2
    funext p
    -- Of the option that was just read no later member has the name; for the others it does not
    -- count.
    by_cases hpo : p = o
    · subst hpo
      have hnone : Pairs.get? p.name members = none := Pairs.get?_eq_none_iff.2 hnew
      simp [Pairs.get?, hnone]
    · have hname : o.name ≠ p.name := fun h => hpo (ConfigOption.name_injective h).symm
      simp [Pairs.get?, hname, hpo]

/-- A document without a fault gives each option the value that it names. -/
theorem ofMembers_eq_ok {members : List (String × Json)} (hnames : (members.map Prod.fst).Nodup)
    (h : ∀ m ∈ members, ∀ e, ¬ MemberFault m e) :
    Options.ofMembers members = .ok (optionsOf (given members)) :=
  foldlM_readMember_optionsOf (fun _ => .null) hnames (fun _ _ => rfl) h

/-! ## What the settings make -/

/-- The filter that conditions make, if there are any. -/
def filterOfConditions (conds : List (String × String)) : Option FilterMap :=
  if conds = [] then none else some (.ofList conds)

/-- Conditions join a filter that is there, the later ones in the place of earlier ones of the field. -/
private theorem foldl_withCondition_some (conds : List (String × String)) (m : FilterMap) :
    conds.foldl (fun filter c => withCondition c.1 c.2 filter) (some m) =
      some (conds.foldl (fun t c => t.insert c.1 c.2) m) := by
  -- The filter so far is generalized.
  induction conds generalizing m with
  | nil => rfl
  | cons c conds ih => exact ih (m.insert c.1 c.2)

/-- The first condition makes the filter, the others join it. -/
theorem foldl_withCondition_none (conds : List (String × String)) :
    conds.foldl (fun filter c => withCondition c.1 c.2 filter) none = filterOfConditions conds := by
  cases conds with
  | nil => rfl
  | cons c conds => exact foldl_withCondition_some conds (Table.empty.insert c.1 c.2)

/-- Forced conditions change the forced filter only. -/
private theorem applyAll_forced (d : Draft) (conds : List (String × String)) :
    d.applyAll (conds.map fun (field, text) => .forced field text) =
      { d with forcedFilter :=
          conds.foldl (fun filter c => withCondition c.1 c.2 filter) d.forcedFilter } := by
  -- Each condition leaves a draft that differs in the forced filter only.
  induction conds generalizing d with
  | nil => rfl
  | cons c conds ih => exact ih (d.apply (.forced c.1 c.2))

/-- Default conditions change the default filter only. -/
private theorem applyAll_byDefault (d : Draft) (conds : List (String × String)) :
    d.applyAll (conds.map fun (field, text) => .byDefault field text) =
      { d with defaultFilter :=
          conds.foldl (fun filter c => withCondition c.1 c.2 filter) d.defaultFilter } := by
  induction conds generalizing d with
  | nil => rfl
  | cons c conds ih => exact ih (d.apply (.byDefault c.1 c.2))

/-- The value of the default order is set where none was set before, and any other value sets none. -/
private theorem applyAll_defaultOrder {d : Draft} (hd : d.defaultOrder = []) (v : Json) :
    d.applyAll (settings .defaultOrder v) = { d with defaultOrder := termsOf v } := by
  cases v with
  | array items => rfl
  | null | bool | number | string | object => rw [termsOf, ← hd]; rfl; nofun

/-- The case setting is set where it was off before, and any other value leaves it off. -/
private theorem applyAll_caseSensitive {d : Draft} (hd : d.caseSensitive = false) (v : Json) :
    d.applyAll (settings .caseSensitive v) = { d with caseSensitive := flagOf v } := by
  cases v with
  | bool b => rfl
  | null | number | string | array | object => rw [flagOf, ← hd]; rfl; nofun

/-- The grammar is set where it was the suffix grammar before, and a name of none leaves it so. -/
private theorem applyAll_grammar {d : Draft} (hd : d.grammar = .suffix) (v : Json) :
    d.applyAll (settings .grammar v) = { d with grammar := grammarOf v } := by
  cases v with
  | string s =>
    cases hs : Grammar.ofName? s with
    | none => simp [settings, grammarOf, hs, ← hd]
    | some g => simp [settings, grammarOf, hs, Draft.applyAll, Draft.apply]
  | null | bool | number | array | object => rw [grammarOf, ← hd]; rfl; nofun

/-- What the settings of a document make, option by option. -/
theorem typed_eq (members : List (String × Json)) :
    typed members =
      { mapping := FieldMapping.ofSteps (mappingSteps (given members .fieldMapping))
        forcedFilter := filterOfConditions (conditions (given members .forcedFilter))
        defaultFilter := filterOfConditions (conditions (given members .defaultFilter))
        defaultOrder := termsOf (given members .defaultOrder)
        caseSensitive := flagOf (given members .caseSensitive)
        grammar := grammarOf (given members .grammar) } := by
  -- The field mapping is the one option that no setting changes: the draft starts with it.
  have hmapping : settings .fieldMapping (given members .fieldMapping) = [] := by
    cases given members .fieldMapping <;> rfl
  rw [typed, ConfigOption.values]
  simp only [List.flatMap_cons, List.flatMap_nil, List.append_nil, hmapping, List.nil_append,
    Draft.applyAll_append]
  rw [settings, applyAll_forced, settings, applyAll_byDefault, applyAll_defaultOrder rfl,
    applyAll_caseSensitive rfl, applyAll_grammar rfl]
  simp only [Draft.ofMapping, foldl_withCondition_none]

/-! ## Empty filters -/

/-- The filter that a value stands for is what its conditions make, except that an object without
    entries is kept. -/
private theorem filterOf_eq_keptFilter {o : ConfigOption} (ho : o = .forcedFilter ∨ o = .defaultFilter)
    {v : Json} (h : ∀ e, ¬ ValueFault o v e) :
    filterOf v = keptFilter v (filterOfConditions (conditions v)) := by
  cases v with
  | object entries =>
    cases entries with
    | nil => rfl
    | cons x entries =>
      -- Without a fault the first entry gives a condition, so there is a filter to make.
      have hx : IsFilterValue x.2 := isFilterValue_of_not_entryFault ho
        (not_entryFault_of_not_valueFault h x (List.mem_cons_self ..))
      have hsome : ∃ c, condition? x = some c := by
        obtain ⟨field, v⟩ := x
        cases hx <;> exact ⟨_, rfl⟩
      obtain ⟨c, hc⟩ := hsome
      simp [filterOf, keptFilter, filterOfConditions, conditions, List.filterMap_cons_some hc]
  | null | bool | number | string | array => rfl

/-- A filter that is kept empty has no conditions, as the absent one has none. -/
private theorem exactComparisons_keptFilter (v : Json) :
    exactComparisons (keptFilter v (filterOfConditions (conditions v))) =
      exactComparisons (filterOfConditions (conditions v)) := by
  unfold keptFilter
  split <;> rfl

/-- An empty filter names no field, so keeping it brings no defect. -/
private theorem filterDefect_keptFilter (o : ConfigOption) (v : Json) :
    filterDefect o (keptFilter v (filterOfConditions (conditions v))) =
      filterDefect o (filterOfConditions (conditions v)) := by
  unfold keptFilter
  split <;> rfl

/-- Keeping empty filters brings no defect and takes none away. -/
private theorem firstDefect_keepEmptyFilters (members : List (String × Json)) :
    (keepEmptyFilters members (typed members)).firstDefect = (typed members).firstDefect := by
  rw [typed_eq]
  simp only [keepEmptyFilters, Draft.firstDefect, filterDefect_keptFilter]

/-! ## Loading -/

/-- The values that a document without a fault gives to options have none. -/
theorem not_valueFault_given {members : List (String × Json)}
    (h : ∀ m ∈ members, ∀ e, ¬ MemberFault m e) (o : ConfigOption) (e : ConfigError) :
    ¬ ValueFault o (given members o) e := by
  unfold given
  -- An option that no member names has a null, which is in shape for all options.
  cases hv : Pairs.get? o.name members with
  | none =>
    intro he
    cases he with
    | shape hshape => exact hshape (.null o)
  | some v => exact fun he => h _ (Pairs.mem_keys_of_get? hv) e (.value he)

/-- The draft of a document without a fault is the one that its settings make, with its empty filters
    kept. -/
private theorem draft_optionsOf_given {members : List (String × Json)}
    (h : ∀ m ∈ members, ∀ e, ¬ MemberFault m e) (hmapping : given members .fieldMapping ≠ .null) :
    (optionsOf (given members)).draft = .ok (keepEmptyFilters members (typed members)) := by
  have hforced := filterOf_eq_keptFilter (.inl rfl) (not_valueFault_given h .forcedFilter)
  have hdefault := filterOf_eq_keptFilter (.inr rfl) (not_valueFault_given h .defaultFilter)
  have hshape : HasShape .fieldMapping (given members .fieldMapping) :=
    Classical.byContradiction fun hno => not_valueFault_given h _ _ (.shape hno)
  rw [typed_eq]
  -- Only its being an object counts of the mapping; what is in it is the same on both sides.
  generalize hv : given members .fieldMapping = v at hshape hmapping
  cases hshape with
  | null => exact absurd rfl hmapping
  | fieldMapping entries =>
    simp only [Options.draft, optionsOf, hv, mappingOf, hforced, hdefault, keepEmptyFilters]

private theorem draft_optionsOf_given_of_null {members : List (String × Json)}
    (hmapping : given members .fieldMapping = .null) :
    (optionsOf (given members)).draft = .error .missingFieldMapping := by
  simp only [Options.draft, optionsOf, hmapping, mappingOf]

/-- A document with a fault is refused for the first. -/
theorem ofDocument_of_firstFault {members : List (String × Json)} {e : ConfigError}
    (h : FirstFault MemberFault members e) : Config.ofDocument (.object members) = .error e := by
  rw [Config.ofDocument, Options.ofMembers_eq_error_iff.2 h]
  rfl

/-- A document without a fault is left to the draft of its values. -/
theorem ofDocument_of_not_memberFault {members : List (String × Json)}
    (hnames : (members.map Prod.fst).Nodup) (h : ∀ m ∈ members, ∀ e, ¬ MemberFault m e) :
    Config.ofDocument (.object members) = (optionsOf (given members)).draft >>= Draft.build := by
  rw [Config.ofDocument, ofMembers_eq_ok hnames h]
  rfl

/-- What a document loads as. -/
inductive Loads : Json → Except ConfigError Config → Prop where
  /-- Only an object is a configuration. -/
  | other {doc : Json} (h : ∀ members, doc ≠ .object members) :
    Loads doc (.error (.wrongShape .document))
  /-- The first member at fault decides the error. -/
  | fault {members : List (String × Json)} {e : ConfigError} (h : FirstFault MemberFault members e) :
    Loads (.object members) (.error e)
  /-- Without a fault, a field mapping is needed, and a null is none. -/
  | unmapped {members : List (String × Json)} (h : ∀ m ∈ members, ∀ e, ¬ MemberFault m e)
    (hmapping : given members .fieldMapping = .null) :
    Loads (.object members) (.error .missingFieldMapping)
  /-- All else is a matter of the draft that the settings of the document make. -/
  | settings {members : List (String × Json)} (h : ∀ m ∈ members, ∀ e, ¬ MemberFault m e)
    (hmapping : given members .fieldMapping ≠ .null) :
    Loads (.object members) (keepEmptyFilters members (typed members)).build

/-- A document loads as one thing. -/
theorem ofDocument_eq_of_loads {doc : Json} (hdoc : doc.NamesOnce) {r : Except ConfigError Config}
    (h : Loads doc r) : Config.ofDocument doc = r := by
  cases h with
  | other h =>
    cases doc with
    | object members => exact absurd rfl (h members)
    | null | bool | number | string | array => rfl
  | fault h => exact ofDocument_of_firstFault h
  | unmapped h hmapping =>
    cases hdoc with
    | object hnames =>
      rw [ofDocument_of_not_memberFault hnames h, draft_optionsOf_given_of_null hmapping]
      rfl
  | settings h hmapping =>
    cases hdoc with
    | object hnames =>
      rw [ofDocument_of_not_memberFault hnames h, draft_optionsOf_given h hmapping]
      rfl

/-- Every document loads as something. -/
theorem exists_loads (doc : Json) : ∃ r, Loads doc r := by
  -- The four ways to load exclude each other and leave nothing out.
  by_cases hobject : ∃ members, doc = .object members
  · obtain ⟨members, rfl⟩ := hobject
    by_cases hfault : ∃ e, FirstFault MemberFault members e
    · obtain ⟨e, he⟩ := hfault
      exact ⟨_, .fault he⟩
    · have hfree := not_firstFault_iff.1 (not_exists.1 hfault)
      by_cases hmapping : given members .fieldMapping = .null
      · exact ⟨_, .unmapped hfree hmapping⟩
      · exact ⟨_, .settings hfree hmapping⟩
  · exact ⟨_, .other fun members h => hobject ⟨members, h⟩⟩

/-- A document that names members once loads as what `Loads` says and as nothing else. -/
theorem ofDocument_eq_iff_loads {doc : Json} (hdoc : doc.NamesOnce) (r : Except ConfigError Config) :
    Config.ofDocument doc = r ↔ Loads doc r := by
  refine ⟨fun h => ?_, ofDocument_eq_of_loads hdoc⟩
  obtain ⟨s, hs⟩ := exists_loads doc
  rwa [← h, ofDocument_eq_of_loads hdoc hs]

end Document

/-! ## What a search sees -/

namespace Config

/-- A search depends on a filter option by its conditions only. -/
theorem search_congr {a b : Config} (hmapping : a.mapping = b.mapping)
    (hforced : exactComparisons a.forcedFilter = exactComparisons b.forcedFilter)
    (hdefault : exactComparisons a.defaultFilter = exactComparisons b.defaultFilter)
    (horder : a.defaultOrder = b.defaultOrder) (hcase : a.caseSensitive = b.caseSensitive)
    (hgrammar : a.grammar = b.grammar) (request : Request) : a.search request = b.search request := by
  have hget : ∀ key, a.mapping.get? key = b.mapping.get? key := fun key => by rw [hmapping]
  have hnode : a.node? = b.node? := node?_congr hget hcase
  have hsort : a.order = b.order := order_congr hget horder
  simp only [search, filter, filterOfClauses, hnode, hsort, hforced, hdefault, hgrammar]

open Document

/-- A document loads as the settings of its members. What it loads as is told by `Loads`: it is no
    object, or its first member at fault is reported, an entry under the names of its option and its
    own, or it gives no field mapping, or the draft of its settings decides, with empty filters kept.
    In the last case the same errors come out as from the settings themselves, and a configuration
    that answers every search in the same way. The text of a number in a filter has the digits of an
    integer, and for a double it is a literal with its sign to which no other double is nearer. -/
theorem ofDocument_loads_settings (doc : Json) (hdoc : doc.NamesOnce) :
    (∀ r, ofDocument doc = r ↔ Loads doc r) ∧
      (∀ o x e, EntryFault o x e →
        ∃ place : Place, e = .wrongShape place ∧ place.name = o.name ++ "." ++ x.1) ∧
      (∀ n : Int, (Number.integer n).text = toString n) ∧
      (∀ x : Binary64, ∃ l : Number.Literal,
        Number.Literal.ofChars? (Number.double x).text.toList = some l ∧
          l.negative = x.negative ∧ x.IsNearestTo l.magnitude) ∧
      ∀ members, doc = .object members → (∀ m ∈ members, ∀ e, ¬ MemberFault m e) →
        given members .fieldMapping ≠ .null →
        (∀ e, ofDocument doc = .error e ↔ (typed members).build = .error e) ∧
        ∀ c, ofDocument doc = .ok c → ∃ c' : Config, (typed members).build = .ok c' ∧
          c.toDraft = keepEmptyFilters members c'.toDraft ∧
          ∀ request, c.search request = c'.search request := by
  refine ⟨ofDocument_eq_iff_loads hdoc, fun _ _ _ h => h.exists_place, Number.text_integer,
    Number.exists_literal_of_double, ?_⟩
  rintro members rfl hfree hmapping
  have hload : ofDocument (.object members) = (keepEmptyFilters members (typed members)).build :=
    ofDocument_eq_of_loads hdoc (.settings hfree hmapping)
  rw [hload]
  refine ⟨fun e => ?_, fun c hc => ?_⟩
  · rw [Draft.build_eq_error_iff, Draft.build_eq_error_iff, firstDefect_keepEmptyFilters]
  · -- The draft of the settings is sound too, since keeping empty filters changes no defect.
    have hkept : c.toDraft = keepEmptyFilters members (typed members) := Draft.build_eq_ok_iff.1 hc
    have hsound : (typed members).Sound := by
      rw [← Draft.firstDefect_eq_none_iff, ← firstDefect_keepEmptyFilters, ← hkept]
      exact Draft.firstDefect_eq_none_iff.2 c.sound
    refine ⟨⟨typed members, hsound⟩, Draft.build_eq_ok_iff.2 rfl, hkept, ?_⟩
    have hforced : exactComparisons c.forcedFilter = exactComparisons (typed members).forcedFilter := by
      rw [hkept, typed_eq]
      exact exactComparisons_keptFilter _
    have hdefault : exactComparisons c.defaultFilter =
        exactComparisons (typed members).defaultFilter := by
      rw [hkept, typed_eq]
      exact exactComparisons_keptFilter _
    exact search_congr (by rw [hkept]; rfl) hforced hdefault (by rw [hkept]; rfl)
      (by rw [hkept]; rfl) (by rw [hkept]; rfl)

/-- A tenth, or rather the double that is nearest to it. -/
def tenth : Binary64 where
  negative := false
  mantissa := 7205759403792794
  exponent := -56
  mantissa_lt := by decide
  least_le := by decide
  le_greatest := by decide
  normal := .inl (by decide)

/-- The members of a document for tickets: a list of fields, two numbers and a boolean in a filter, an
    empty filter and a null. -/
def ticketMembers : List (String × Json) :=
  [("default_filter", .object []), ("case_sensitive", .null),
    ("field_mapping",
      .object [("st", .string "status"), ("q", .array [.string "title", .string "body"])]),
    ("forced_filter", .object [("tenant", .number (.integer 7)), ("share", .number (.double tenth)),
      ("live", .bool true)])]

theorem namesOnce_ticketMembers : (Json.object ticketMembers).NamesOnce := by
  refine .object (by decide) ?_
  simp only [ticketMembers, List.forall_mem_cons, List.not_mem_nil, false_implies, implies_true,
    and_true]
  have hfields : ∀ v ∈ [Json.string "title", .string "body"], v.NamesOnce := by
    simp only [List.forall_mem_cons, List.not_mem_nil, false_implies, implies_true, and_true]
    exact ⟨.string _, .string _⟩
  refine ⟨.object .nil nofun, .null, .object (by decide) ?_, .object (by decide) ?_⟩
  · simp only [List.forall_mem_cons, List.not_mem_nil, false_implies, implies_true, and_true]
    exact ⟨.string _, .array hfields⟩
  · simp only [List.forall_mem_cons, List.not_mem_nil, false_implies, implies_true, and_true]
    exact ⟨.number _, .number _, .bool _⟩

/-- The statement at a document for tickets. The numbers and the boolean are loaded as texts; the empty
    filter is kept, and no search sees it. -/
theorem ofDocument_loads_settings_tickets :
    (Json.object ticketMembers).NamesOnce ∧ (∀ m ∈ ticketMembers, ∀ e, ¬ MemberFault m e) ∧
      given ticketMembers .fieldMapping ≠ .null ∧
      ∃ c c' : Config, ofDocument (.object ticketMembers) = .ok c ∧
        (typed ticketMembers).build = .ok c' ∧
        c.forcedFilter.map (·.entries) = some [("tenant", "7"), ("share", "0.1"), ("live", "true")] ∧
        c.defaultFilter = some .empty ∧ c'.defaultFilter = none ∧
        ∀ request, c.search request = c'.search request := by
  have hfree : ∀ m ∈ ticketMembers, ∀ e, ¬ MemberFault m e := by
    refine not_firstFault_iff.1 fun e he => ?_
    -- A fault would be reported, but the options can be read.
    have herror := Options.ofMembers_eq_error_iff.2 he
    exact nomatch herror
  obtain ⟨-, -, -, -, hsettings⟩ := ofDocument_loads_settings _ namesOnce_ticketMembers
  obtain ⟨-, hload⟩ := hsettings ticketMembers rfl hfree nofun
  obtain ⟨c, hc⟩ : ∃ c, ofDocument (.object ticketMembers) = .ok c := ⟨_, rfl⟩
  obtain ⟨c', hc', hkept, hsearch⟩ := hload c hc
  have htyped : c'.toDraft = typed ticketMembers := Draft.build_eq_ok_iff.1 hc'
  refine ⟨namesOnce_ticketMembers, hfree, nofun, c, c', hc, hc', ?_, ?_, ?_, hsearch⟩
  · rw [hkept, htyped]
    decide +kernel
  · rw [hkept]
    rfl
  · rw [htyped]
    rfl

/-- The document of a text loads as the settings of its members, for the readers of both formats see
    to it that no two members have one name. -/
theorem ofText_eq_iff_loads {format : DocumentFormat} {s : String} {doc : Json}
    (h : format.parse? s = some doc) (r : Except ConfigError Config) :
    ofText format s = r ↔ Loads doc r := by
  rw [ofText, h]
  exact ofDocument_eq_iff_loads (DocumentFormat.namesOnce_of_parse? h) r

end Config

end FilterQuery
