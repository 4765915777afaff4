import FilterQuery.Proofs.Acceptance
import FilterQuery.Proofs.MemberOrder

/-!
# Settings in sequence

Field mappings and options are filled call by call. Calls on one key, and settings of one option, are
told apart by their order: the last one gives the value. Settings of different options do not touch
each other, so only the order among those of one option is seen in the result.

`Draft.SetBy` says what a sequence of settings leaves, option by option. It decides the draft, and it
looks at each option through the settings of that option alone; together this makes the order between
options irrelevant to what is built.

## Key results

- `FieldMapping.filledBy_foldl`: what calls leave of a field mapping
- `Draft.setBy_applyAll`: what settings leave of the options
- `Draft.SetBy.unique`, `Draft.SetBy.interleaved`: the settings of each option decide the draft
- `Draft.last_write_counts_per_option`: sequences of calls and settings in one statement
-/

namespace FilterQuery

/-! ## Field mappings -/

/-- What calls leave of a field mapping that was collected from pairs; each call, and each pair, writes
    the fields of one key. -/
theorem FieldMapping.filledBy_foldl (pairs : List (String × String)) (steps : List MappingStep) :
    Table.FilledBy (steps.foldl FieldMapping.apply (FieldMapping.ofPairs pairs))
      (pairs.map (fun (key, field) => (key, [field])) ++ steps.map Document.entryOf) := by
  have hpairs : (pairs.map fun (key, field) => MappingStep.field key field).map Document.entryOf =
      pairs.map fun (key, field) => (key, [field]) := by
    rw [List.map_map]
    rfl
  -- Collecting pairs is a row of calls itself, so all calls are one row.
  have hfold : steps.foldl FieldMapping.apply (FieldMapping.ofPairs pairs) =
      FieldMapping.ofSteps ((pairs.map fun (key, field) => .field key field) ++ steps) := by
    rw [ofPairs, ofSteps, ofSteps, List.foldl_append]
  rw [hfold, Document.ofSteps_eq_ofList, List.map_append, hpairs]
  exact Table.filledBy_ofList _

/-! ## Settings of one option -/

namespace Setting

/-- The option that a setting changes. -/
def option : Setting → ConfigOption
  | .forced _ _ => .forcedFilter
  | .byDefault _ _ => .defaultFilter
  | .defaultOrder _ => .defaultOrder
  | .caseSensitive _ => .caseSensitive
  | .grammar _ => .grammar

/-- The case setting that a setting puts in the place of an earlier one. -/
def flag? : Setting → Option Bool
  | .caseSensitive value => some value
  | _ => none

/-- The grammar that a setting puts in the place of an earlier one. -/
def grammar? : Setting → Option Grammar
  | .grammar value => some value
  | _ => none

private theorem condition?_of_option_ne {s : Setting} {o : ConfigOption} (h : s.option ≠ o) :
    s.condition? o = none := by
  cases s <;> cases o <;> first | rfl | exact absurd rfl h

/-- The settings of each option are the same, in the same order. Between options the order is free. -/
def Interleaved (ss ts : List Setting) : Prop :=
  ∀ o, ss.filter (fun s => s.option = o) = ts.filter (fun s => s.option = o)

/-- What is picked from the settings of one option does not depend on the others. -/
private theorem Interleaved.filterMap_eq {γ : Type} {pick? : Setting → Option γ} {o : ConfigOption}
    {ss ts : List Setting} (h : Interleaved ss ts) (hpick : ∀ s, s.option ≠ o → pick? s = none) :
    ss.filterMap pick? = ts.filterMap pick? := by
  -- The settings that are left out have nothing to be picked.
  have hother : (fun s => if decide (s.option = o) = true then pick? s else none) = pick? := by
    funext s
    by_cases hs : s.option = o
    · simp [hs]
    · simp [hs, hpick s hs]
  have hfilter : ∀ us : List Setting,
      us.filterMap pick? = (us.filter fun u => u.option = o).filterMap pick? := by
    intro us
    rw [List.filterMap_filter, hother]
  rw [hfilter ss, hfilter ts, h o]

end Setting

/-! ## What settings leave -/

/-- What conditions leave of a filter: without conditions there is none. -/
inductive FilterFilledBy : Option FilterMap → List (String × String) → Prop where
  | absent : FilterFilledBy none []
  | present {t : FilterMap} {conds : List (String × String)} (hne : conds ≠ [])
    (h : t.FilledBy conds) : FilterFilledBy (some t) conds

/-- What conditions make is what they are said to leave. -/
private theorem filterFilledBy_filterOfConditions (conds : List (String × String)) :
    FilterFilledBy (Document.filterOfConditions conds) conds := by
  rw [Document.filterOfConditions]
  split
  · rename_i hnil
    rw [hnil]
    exact .absent
  · rename_i hne
    exact .present hne (Table.filledBy_ofList conds)

/-- The conditions decide the filter, and whether there is one. -/
theorem FilterFilledBy.unique {f g : Option FilterMap} {conds : List (String × String)}
    (hf : FilterFilledBy f conds) (hg : FilterFilledBy g conds) : f = g := by
  -- There is a filter exactly when there are conditions, so one cannot be absent alone.
  cases hf with
  | absent =>
    cases hg with
    | absent => rfl
    | present hne => exact absurd rfl hne
  | present hne hf =>
    cases hg with
    | absent => exact absurd rfl hne
    | present _ hg => rw [hf.unique hg]

namespace Draft

/-- What settings leave of the options, from the first to the last. Conditions fill a filter; of the
    options that settings replace, the last one that is set counts. -/
structure SetBy (d : Draft) (m : FieldMapping) (settings : List Setting) : Prop where
  mapping : d.mapping = m
  forcedFilter : FilterFilledBy d.forcedFilter (settings.filterMap (Setting.condition? .forcedFilter))
  defaultFilter :
    FilterFilledBy d.defaultFilter (settings.filterMap (Setting.condition? .defaultFilter))
  defaultOrder : d.defaultOrder = ((settings.filterMap Setting.terms?).getLast?).getD []
  caseSensitive : d.caseSensitive = ((settings.filterMap Setting.flag?).getLast?).getD false
  grammar : d.grammar = ((settings.filterMap Setting.grammar?).getLast?).getD .suffix

variable {d e : Draft} {m : FieldMapping} {ss ts : List Setting}

/-- Each of the two filters is filled by the conditions that are set for it. -/
private theorem filterFilledBy_filterOption (m : FieldMapping) (settings : List Setting)
    (o : ConfigOption) :
    FilterFilledBy (((ofMapping m).applyAll settings).filterOption o)
      (settings.filterMap (Setting.condition? o)) := by
  rw [filterOption_ofMapping_applyAll]
  exact filterFilledBy_filterOfConditions _

/-- What settings leave of the options of a mapping. -/
theorem setBy_applyAll (m : FieldMapping) (settings : List Setting) :
    ((ofMapping m).applyAll settings).SetBy m settings where
  mapping := mapping_applyAll _ settings
  forcedFilter := filterFilledBy_filterOption m settings .forcedFilter
  defaultFilter := filterFilledBy_filterOption m settings .defaultFilter
  defaultOrder := defaultOrder_applyAll _ settings
  caseSensitive := option_applyAll (fun _ s => by cases s <;> rfl) _ settings
  grammar := option_applyAll (fun _ s => by cases s <;> rfl) _ settings

/-- The settings decide the draft. -/
theorem SetBy.unique (hd : d.SetBy m ss) (he : e.SetBy m ss) : d = e := by
  -- The filters are decided by their conditions, the rest by equations.
  have hforced := hd.forcedFilter.unique he.forcedFilter
  have hdefault := hd.defaultFilter.unique he.defaultFilter
  obtain ⟨mapping, forcedFilter, defaultFilter, defaultOrder, caseSensitive, grammar⟩ := d
  -- A draft is its six options, and the settings decide each of them.
  rw [Draft.mk.injEq]
  exact ⟨hd.mapping.trans he.mapping.symm, hforced, hdefault,
    hd.defaultOrder.trans he.defaultOrder.symm, hd.caseSensitive.trans he.caseSensitive.symm,
    hd.grammar.trans he.grammar.symm⟩

/-- The order between settings of different options is not seen in what they leave. -/
theorem SetBy.interleaved (hd : d.SetBy m ss) (h : Setting.Interleaved ss ts) : d.SetBy m ts := by
  -- All that is picked for an option comes from its own settings.
  have hconds : ∀ o, ss.filterMap (Setting.condition? o) = ts.filterMap (Setting.condition? o) :=
    fun o => h.filterMap_eq fun s hs => Setting.condition?_of_option_ne hs
  have hterms : ss.filterMap Setting.terms? = ts.filterMap Setting.terms? :=
    h.filterMap_eq (o := .defaultOrder) fun s hs => by cases s <;> first | rfl | exact absurd rfl hs
  have hflags : ss.filterMap Setting.flag? = ts.filterMap Setting.flag? :=
    h.filterMap_eq (o := .caseSensitive) fun s hs => by cases s <;> first | rfl | exact absurd rfl hs
  have hgrammars : ss.filterMap Setting.grammar? = ts.filterMap Setting.grammar? :=
    h.filterMap_eq (o := .grammar) fun s hs => by cases s <;> first | rfl | exact absurd rfl hs
  exact ⟨hd.mapping, hconds _ ▸ hd.forcedFilter, hconds _ ▸ hd.defaultFilter,
    hterms ▸ hd.defaultOrder, hflags ▸ hd.caseSensitive, hgrammars ▸ hd.grammar⟩

/-- Settings that agree option by option make the same draft. -/
private theorem applyAll_eq_of_interleaved (m : FieldMapping) (h : Setting.Interleaved ss ts) :
    (ofMapping m).applyAll ss = (ofMapping m).applyAll ts :=
  ((setBy_applyAll m ss).interleaved h).unique (setBy_applyAll m ts)

/-- What counts in a sequence of calls. The calls on a field mapping leave each key once, in the place of
    its first call and with the fields of its last one; the same goes for the conditions of a filter. Of
    the other options the last setting counts. A configuration that is built holds this, and nothing
    changes in what is built, the error and the order of entries included, when settings are reordered
    without changing the order among those of one option. -/
theorem last_write_counts_per_option :
    (∀ (pairs : List (String × String)) (steps : List MappingStep),
      Table.FilledBy (steps.foldl FieldMapping.apply (FieldMapping.ofPairs pairs))
        (pairs.map (fun (key, field) => (key, [field])) ++ steps.map Document.entryOf)) ∧
    ∀ (m : FieldMapping) (settings : List Setting),
      ((ofMapping m).applyAll settings).SetBy m settings ∧
      (∀ c, ((ofMapping m).applyAll settings).build = .ok c → c.toDraft.SetBy m settings) ∧
      ∀ settings', Setting.Interleaved settings settings' →
        ((ofMapping m).applyAll settings').build = ((ofMapping m).applyAll settings).build := by
  refine ⟨FieldMapping.filledBy_foldl, fun m settings => ⟨setBy_applyAll m settings, ?_, ?_⟩⟩
  -- A configuration that is built keeps the draft.
  · intro c hc
    rw [build_eq_ok_iff.1 hc]
    exact setBy_applyAll m settings
  · intro settings' h
    rw [applyAll_eq_of_interleaved m h]

/-- A mapping in which one key is collected twice and another gets further fields. -/
def repeatedMapping : FieldMapping :=
  [.fields "q" ["title", "body"], .field "who" "owner"].foldl FieldMapping.apply
    (.ofPairs [("st", "status"), ("q", "title"), ("st", "state")])

/-- Settings with two forced conditions on one field, and two case settings. -/
def repeatedSettings : List Setting :=
  [.forced "tenant" "acme", .caseSensitive true, .forced "area" "north", .defaultOrder ["-state"],
    .forced "tenant" "zeta", .caseSensitive false]

/-- The same settings, option by option. -/
def groupedSettings : List Setting :=
  [.caseSensitive true, .caseSensitive false, .defaultOrder ["-state"], .forced "tenant" "acme",
    .forced "area" "north", .forced "tenant" "zeta"]

/-- The statement at repeated calls: `st` and `tenant` keep their first places and get their last
    values, and the settings may be grouped by option. -/
theorem last_write_counts_per_option_repeated :
    repeatedMapping.FilledBy [("st", ["status"]), ("q", ["title"]), ("st", ["state"]),
      ("q", ["title", "body"]), ("who", ["owner"])] ∧
    repeatedMapping.entries = [("st", ["state"]), ("q", ["title", "body"]), ("who", ["owner"])] ∧
    Setting.Interleaved repeatedSettings groupedSettings ∧
    ∃ c, ((ofMapping repeatedMapping).applyAll repeatedSettings).build = .ok c ∧
      c.toDraft.SetBy repeatedMapping repeatedSettings ∧
      c.forcedFilter = some (.ofList [("tenant", "zeta"), ("area", "north")]) ∧
      ((ofMapping repeatedMapping).applyAll groupedSettings).build = .ok c := by
  obtain ⟨hmapping, hsettings⟩ := last_write_counts_per_option
  obtain ⟨-, hbuilt, hreordered⟩ := hsettings repeatedMapping repeatedSettings
  have hinterleaved : Setting.Interleaved repeatedSettings groupedSettings := by
    intro o
    cases o <;> rfl
  have hc : ∃ c, ((ofMapping repeatedMapping).applyAll repeatedSettings).build = .ok c := ⟨_, rfl⟩
  obtain ⟨c, hc⟩ := hc
  -- What is built is the draft, whose filter can be computed.
  have hforced : c.forcedFilter = some (.ofList [("tenant", "zeta"), ("area", "north")]) := by
    rw [build_eq_ok_iff.1 hc]
    decide
  exact ⟨hmapping _ _, by decide, hinterleaved, c, hc, hbuilt c hc, hforced,
    (hreordered _ hinterleaved).trans hc⟩

end Draft

end FilterQuery
