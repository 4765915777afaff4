import FilterQuery.Config.Text
import FilterQuery.Proofs.DocumentSettings
import FilterQuery.Proofs.FilledTables
import FilterQuery.Proofs.SuffixLanguage

/-!
# What is accepted as a configuration

No search checks its configuration, so all that is known of one was found out when it was made. This
file spells out the options that are accepted, `Draft.Acceptable`, and the defects of the others,
`Draft.Defect`, on the texts alone. The defects are looked for option by option, and in a field
mapping entry by entry; the first of them is the error. Settings and documents both end in this check.

## Key results

- `Draft.filterOption_ofMapping_applyAll`, `Draft.option_applyAll`: what settings make of an option,
  whatever stands between them
- `Draft.firstDefect_eq_some_iff`: the check reports the first defect
- `Draft.acceptable_iff_sound`: what is left is what a configuration has to be
- `Draft.acceptable_applyAll_iff`: acceptance, told by the mapping and the settings
- `Config.accepts_exactly_the_acceptable`: the check on every way to a configuration
-/

namespace FilterQuery

/-! ## What settings make of an option -/

namespace Setting

/-- The condition that a setting adds to a filter option. -/
def condition? : ConfigOption → Setting → Option (String × String)
  | .forcedFilter, .forced field value => some (field, value)
  | .defaultFilter, .byDefault field value => some (field, value)
  | _, _ => none

/-- The default order that a setting puts in the place of an earlier one. -/
def terms? : Setting → Option (List String)
  | .defaultOrder terms => some terms
  | _ => none

/-- Only a forced condition adds to the forced filter, and it adds what it says. -/
private theorem condition?_forcedFilter_iff {s : Setting} {field value : String} :
    s.condition? .forcedFilter = some (field, value) ↔ s = .forced field value := by
  cases s <;> simp [condition?]

/-- Only a default condition adds to the default filter, and it adds what it says. -/
private theorem condition?_defaultFilter_iff {s : Setting} {field value : String} :
    s.condition? .defaultFilter = some (field, value) ↔ s = .byDefault field value := by
  cases s <;> simp [condition?]

end Setting

namespace Draft

/-- The filter of an option; the other options have none. -/
def filterOption (d : Draft) : ConfigOption → Option FilterMap
  | .forcedFilter => d.forcedFilter
  | .defaultFilter => d.defaultFilter
  | _ => none

/-- A setting adds its condition, if it has one for the option, and else leaves the filter alone. -/
private theorem filterOption_apply (d : Draft) (s : Setting) (o : ConfigOption) :
    (d.apply s).filterOption o =
      (s.condition? o).toList.foldl (fun filter c => withCondition c.1 c.2 filter)
        (d.filterOption o) := by
  cases s <;> cases o <;> rfl

/-- A run of settings adds its conditions for an option, one after the other, to the filter that is
    there. -/
private theorem filterOption_applyAll (d : Draft) (settings : List Setting) (o : ConfigOption) :
    (d.applyAll settings).filterOption o =
      (settings.filterMap (Setting.condition? o)).foldl (fun filter c => withCondition c.1 c.2 filter)
        (d.filterOption o) := by
  -- The filter so far is generalized: each setting hands its own on to the next.
  induction settings generalizing d with
  | nil => rfl
  | cons s settings ih =>
    rw [applyAll_cons, ih, filterOption_apply]
    cases hs : s.condition? o with
    | none => rw [List.filterMap_cons_none hs]; rfl
    | some c => rw [List.filterMap_cons_some hs]; rfl

/-- A filter is made of the conditions that are set for its option, in their order. -/
theorem filterOption_ofMapping_applyAll (m : FieldMapping) (settings : List Setting)
    (o : ConfigOption) :
    ((ofMapping m).applyAll settings).filterOption o =
      Document.filterOfConditions (settings.filterMap (Setting.condition? o)) := by
  have hnone : (ofMapping m).filterOption o = none := by cases o <;> rfl
  rw [filterOption_applyAll, hnone, Document.foldl_withCondition_none]

/-- Of an option that settings replace, the last one that is set counts. -/
theorem option_applyAll {γ : Type} {option : Draft → γ} {pick? : Setting → Option γ}
    (hstep : ∀ d s, option (d.apply s) = (pick? s).getD (option d)) (d : Draft)
    (settings : List Setting) :
    option (d.applyAll settings) = ((settings.filterMap pick?).getLast?).getD (option d) := by
  induction settings generalizing d with
  | nil => rfl
  | cons s settings ih =>
    rw [applyAll_cons, ih, hstep]
    -- Behind an option that is set the draft's own no longer counts.
    cases hs : pick? s with
    | none => rw [List.filterMap_cons_none hs, Option.getD_none]
    | some x => rw [List.filterMap_cons_some hs, List.getLast?_cons]; rfl

/-- The last default order that is set counts. -/
theorem defaultOrder_applyAll (d : Draft) (settings : List Setting) :
    (d.applyAll settings).defaultOrder =
      ((settings.filterMap Setting.terms?).getLast?).getD d.defaultOrder :=
  option_applyAll (fun _ s => by cases s <;> rfl) d settings

/-- No setting touches the mapping that the draft was begun with. -/
theorem mapping_applyAll (d : Draft) (settings : List Setting) :
    (d.applyAll settings).mapping = d.mapping := by
  -- Each setting replaces one other field of the record.
  induction settings generalizing d with
  | nil => rfl
  | cons s settings ih =>
    rw [applyAll_cons, ih]
    cases s <;> rfl

end Draft

/-! ## Defects -/

/-- The key is not empty and made of ASCII letters, digits and underscores. -/
def IsKeyText (key : String) : Prop :=
  key ≠ "" ∧ ∀ c ∈ key.toList, Suffix.IsKeyLetter c

/-- The key stands for some field, and each of its fields has a name. -/
def NamesFields (fields : List String) : Prop :=
  fields ≠ [] ∧ ∀ field ∈ fields, field ≠ ""

/-- What is wrong with an entry of a field mapping. Its fields do not matter if its key is wrong. -/
inductive EntryDefect : String × List String → ConfigError → Prop where
  | key {key : String} {fields : List String} (h : ¬ IsKeyText key) :
    EntryDefect (key, fields) (.invalidKey key)
  | fields {key : String} {fields : List String} (hkey : IsKeyText key) (h : ¬ NamesFields fields) :
    EntryDefect (key, fields) (.emptyTargets key)

namespace Draft

/-- What is wrong with an option of a draft. -/
inductive Defect (d : Draft) : ConfigOption → ConfigError → Prop where
  /-- No key is mapped. -/
  | unmapped (h : d.mapping.entries = []) : Defect d .fieldMapping .missingFieldMapping
  /-- The first entry of the field mapping that has a defect. -/
  | entry {e : ConfigError} (h : FirstFault EntryDefect d.mapping.entries e) :
    Defect d .fieldMapping e
  /-- A filter names the empty field. -/
  | filter {o : ConfigOption} {m : FilterMap} (hm : d.filterOption o = some m) (h : "" ∈ m.keys) :
    Defect d o (.wrongShape (.option o))
  /-- A term of the default order is empty, or made of dashes only. -/
  | order {term : String} (hterm : term ∈ d.defaultOrder) (h : ∀ c ∈ term.toList, c = '-') :
    Defect d .defaultOrder (.wrongShape (.option .defaultOrder))

/-- The options that can have a defect, as they are checked. -/
def checkedOptions : List ConfigOption :=
  [.fieldMapping, .forcedFilter, .defaultFilter, .defaultOrder]

/-- What a search endpoint needs of its options, told by their texts. -/
structure Acceptable (d : Draft) : Prop where
  mapped : d.mapping.entries ≠ []
  keys : ∀ e ∈ d.mapping.entries, IsKeyText e.1
  fields : ∀ e ∈ d.mapping.entries, NamesFields e.2
  forcedFilter : ∀ m, d.forcedFilter = some m → "" ∉ m.keys
  defaultFilter : ∀ m, d.defaultFilter = some m → "" ∉ m.keys
  defaultOrder : ∀ term ∈ d.defaultOrder, ∃ c ∈ term.toList, c ≠ '-'

/-- The result of checking a draft: an acceptable one is taken as it is, any other is refused for its
    first defect. -/
structure Checked (d : Draft) (result : Except ConfigError Config) : Prop where
  accepted : (∃ c, result = .ok c) ↔ d.Acceptable
  refused : ∀ e, result = .error e ↔ FirstFault d.Defect checkedOptions e
  kept : ∀ c, result = .ok c → c.toDraft = d

end Draft

/-! ## The check -/

private theorem namesFields_iff {fields : List String} :
    NamesFields fields ↔ fields ≠ [] ∧ "" ∉ fields := by
  rw [NamesFields, List.forall_mem_ne']

private theorem isBlankTerm_iff {term : String} : isBlankTerm term ↔ ∀ c ∈ term.toList, c = '-' := by
  simp [isBlankTerm]

/-- The check of an entry finds the defect that the entry has, the one of the key first. -/
theorem entryDefect_eq_some_iff (x : String × List String) (e : ConfigError) :
    entryDefect x = some e ↔ EntryDefect x e := by
  obtain ⟨key, fields⟩ := x
  have hkeyText : isKey key.toList ↔ IsKeyText key := Suffix.isKey_toList_iff key
  rw [entryDefect]
  constructor
  · -- The branches of the check are the constructors, in their order.
    intro h
    split at h
    · rename_i hkey
      split at h
      · exact nomatch h
      · rename_i hfields
        obtain rfl := Option.some.inj h
        exact .fields (hkeyText.1 hkey) (mt namesFields_iff.1 hfields)
    · rename_i hkey
      obtain rfl := Option.some.inj h
      exact .key (mt hkeyText.2 hkey)
  · intro h
    cases h with
    | key hkey => exact if_neg (mt hkeyText.1 hkey)
    | fields hkey hfields =>
      rw [if_pos (hkeyText.2 hkey)]
      exact if_neg (mt namesFields_iff.2 hfields)

namespace Draft

variable {d : Draft}

/-- The check of the field mapping finds its defect: no entry at all, or the first entry with one. -/
private theorem defect_mapping_iff (e : ConfigError) :
    FieldMapping.firstDefect d.mapping = some e ↔ d.Defect .fieldMapping e := by
  rw [FieldMapping.firstDefect]
  have hentries := findSome?_eq_some_iff entryDefect_eq_some_iff d.mapping.entries
  constructor
  · intro h
    split at h
    · rename_i hnil
      obtain rfl := Option.some.inj h
      exact .unmapped hnil
    · exact .entry ((hentries e).1 h)
  · intro h
    cases h with
    | unmapped hnil => rw [if_pos hnil]
    | entry h =>
      -- A mapping without entries has no first faulty one, so the two constructors exclude each
      -- other.
      have hne : d.mapping.entries ≠ [] := by
        intro hnil
        rw [hnil] at h
        exact nomatch h
      rw [if_neg hne, (hentries e).2 h]
    | filter hm => exact nomatch hm

/-- The check of a filter finds the empty field among its keys, for either of the two filters. -/
private theorem defect_filter_iff {o : ConfigOption} (ho : o = .forcedFilter ∨ o = .defaultFilter)
    (e : ConfigError) : filterDefect o (d.filterOption o) = some e ↔ d.Defect o e := by
  rw [filterDefect]
  constructor
  · intro h
    split at h
    · simp at h
    · rename_i hunsound
      obtain rfl := Option.some.inj h
      simp only [SoundFilter, Option.mem_def, not_forall, not_not] at hunsound
      obtain ⟨m, hm, hempty⟩ := hunsound
      exact .filter hm hempty
  · intro h
    -- The other defects belong to options that have no filter.
    cases h with
    | unmapped => simp at ho
    | entry => simp at ho
    | order => simp at ho
    | @filter _ m hm hempty => rw [if_neg fun hsound => hsound m hm hempty]

/-- The check of the default order finds a blank term. -/
private theorem defect_order_iff (e : ConfigError) :
    orderDefect d.defaultOrder = some e ↔ d.Defect .defaultOrder e := by
  rw [orderDefect]
  constructor
  · intro h
    split at h
    · rename_i hany
      obtain rfl := Option.some.inj h
      obtain ⟨term, hterm, hblank⟩ := List.any_eq_true.1 hany
      exact .order hterm (isBlankTerm_iff.1 hblank)
    · simp at h
  · intro h
    -- The default order is no filter, so a blank term is all that can be wrong with it.
    cases h with
    | filter hm => simp [filterOption] at hm
    | order hterm hblank =>
      rw [if_pos (List.any_eq_true.2 ⟨_, hterm, isBlankTerm_iff.2 hblank⟩)]

/-- The check reports the first defect, option by option. -/
theorem firstDefect_eq_some_iff (d : Draft) (e : ConfigError) :
    d.firstDefect = some e ↔ FirstFault d.Defect checkedOptions e := by
  -- From the last option to the first, each check goes in front of those behind it.
  have hnil : ∀ e, (none : Option ConfigError) = some e ↔ FirstFault d.Defect [] e :=
    fun _ => ⟨nofun, nofun⟩
  have horder := or_eq_some_iff defect_order_iff hnil
  have hdefault := or_eq_some_iff (defect_filter_iff (.inr rfl)) horder
  have hforced := or_eq_some_iff (defect_filter_iff (.inl rfl)) hdefault
  have hmapping := or_eq_some_iff defect_mapping_iff hforced
  rw [checkedOptions, ← hmapping, Option.or_none]
  rfl

/-- The options that are spelled out are those that a configuration is required to have. -/
theorem acceptable_iff_sound : d.Acceptable ↔ d.Sound := by
  have hentry : ∀ e, SoundEntry e ↔ IsKeyText e.1 ∧ NamesFields e.2 := by
    intro e
    rw [SoundEntry, Suffix.isKey_toList_iff, namesFields_iff]
    rfl
  have hterm : ∀ term, isBlankTerm term = false ↔ ∃ c ∈ term.toList, c ≠ '-' := by
    intro term
    rw [← Bool.not_eq_true, isBlankTerm_iff]
    simp
  constructor
  · intro h
    exact ⟨h.mapped, fun e he => (hentry e).2 ⟨h.keys e he, h.fields e he⟩, h.forcedFilter,
      h.defaultFilter, fun term ht => (hterm term).2 (h.defaultOrder term ht)⟩
  · intro h
    exact ⟨h.mapping_ne_nil, fun e he => ((hentry e).1 (h.entries e he)).1,
      fun e he => ((hentry e).1 (h.entries e he)).2, h.forcedFilter, h.defaultFilter,
      fun term ht => (hterm term).1 (h.defaultOrder term ht)⟩

/-- To build a draft is to check it. -/
theorem checked_build (d : Draft) : d.Checked d.build where
  accepted := by
    rw [acceptable_iff_sound]
    constructor
    · rintro ⟨c, hc⟩
      rw [← build_eq_ok_iff.1 hc]
      exact c.sound
    · intro h
      exact ⟨⟨d, h⟩, build_eq_ok_iff.2 rfl⟩
  refused e := by rw [build_eq_error_iff, firstDefect_eq_some_iff]
  kept _ := build_eq_ok_iff.1

/-! ## Acceptance of settings -/

/-- No condition that is set for the option names the empty field. -/
private theorem empty_notMem_keys_iff {m : FieldMapping} {settings : List Setting} {o : ConfigOption} :
    (∀ t, ((ofMapping m).applyAll settings).filterOption o = some t → "" ∉ t.keys) ↔
      ∀ value, ∀ s ∈ settings, s.condition? o ≠ some ("", value) := by
  rw [filterOption_ofMapping_applyAll]
  -- The filter has the fields of the conditions for keys, and there is none without conditions.
  generalize hconds : settings.filterMap (Setting.condition? o) = conds
  have hkeys : (∀ t, Document.filterOfConditions conds = some t → "" ∉ t.keys) ↔
      "" ∉ conds.map Prod.fst := by
    rw [Document.filterOfConditions]
    split
    · rename_i hnil
      simp [hnil]
    · simp only [Option.some.injEq, forall_eq', Table.mem_keys_ofList]
  rw [hkeys, ← hconds]
  simp only [List.mem_map, List.mem_filterMap, Prod.exists, exists_and_right, exists_eq_right,
    not_exists, not_and, ne_eq]

/-- The draft of a mapping and settings is acceptable when the mapping is, no condition is set on the
    empty field, and the last default order has no term of dashes. -/
theorem acceptable_applyAll_iff {m : FieldMapping} {settings : List Setting} :
    ((ofMapping m).applyAll settings).Acceptable ↔
      (m.entries ≠ [] ∧ (∀ e ∈ m.entries, IsKeyText e.1) ∧ ∀ e ∈ m.entries, NamesFields e.2) ∧
      (∀ value, .forced "" value ∉ settings) ∧ (∀ value, .byDefault "" value ∉ settings) ∧
      ∀ terms, (settings.filterMap Setting.terms?).getLast? = some terms →
        ∀ term ∈ terms, ∃ c ∈ term.toList, c ≠ '-' := by
  have hmapping : ((ofMapping m).applyAll settings).mapping = m := mapping_applyAll _ settings
  have hforced : (∀ t, ((ofMapping m).applyAll settings).forcedFilter = some t → "" ∉ t.keys) ↔
      ∀ value, .forced "" value ∉ settings := by
    refine (empty_notMem_keys_iff (o := .forcedFilter)).trans ?_
    simp only [ne_eq, Setting.condition?_forcedFilter_iff]
    exact forall_congr' fun value => List.forall_mem_ne'
  have hdefault : (∀ t, ((ofMapping m).applyAll settings).defaultFilter = some t → "" ∉ t.keys) ↔
      ∀ value, .byDefault "" value ∉ settings := by
    refine (empty_notMem_keys_iff (o := .defaultFilter)).trans ?_
    simp only [ne_eq, Setting.condition?_defaultFilter_iff]
    exact forall_congr' fun value => List.forall_mem_ne'
  have horder : (∀ term ∈ ((ofMapping m).applyAll settings).defaultOrder,
      ∃ c ∈ term.toList, c ≠ '-') ↔
      ∀ terms, (settings.filterMap Setting.terms?).getLast? = some terms →
        ∀ term ∈ terms, ∃ c ∈ term.toList, c ≠ '-' := by
    rw [defaultOrder_applyAll]
    cases (settings.filterMap Setting.terms?).getLast? with
    | none => simp [ofMapping]
    | some terms => simp
  -- Told by the draft, the three conditions are fields of its acceptance.
  rw [← hforced, ← hdefault, ← horder]
  constructor
  · intro h
    have hkeys := h.keys
    have hfields := h.fields
    have hmapped := h.mapped
    rw [hmapping] at hkeys hfields hmapped
    exact ⟨⟨hmapped, hkeys, hfields⟩, h.forcedFilter, h.defaultFilter, h.defaultOrder⟩
  · rintro ⟨⟨hmapped, hkeys, hfields⟩, hf, hd, ho⟩
    rw [← hmapping] at hmapped hkeys hfields
    exact ⟨hmapped, hkeys, hfields, hf, hd, ho⟩

end Draft

/-! ## Every way to a configuration -/

namespace Config

/-- The draft that a document describes, if all its members can be read and it has a field mapping. -/
inductive Describes : Json → Draft → Prop where
  | intro {members : List (String × Json)} {options : Options} {d : Draft}
    (hmembers : Options.ofMembers members = .ok options) (hd : options.draft = .ok d) :
    Describes (.object members) d

/-- The ways to a configuration: setting options one by one, a document, which is also what any other
    data is deserialized into, and a text in a format. -/
inductive Obtained : Config → Prop where
  | settings {m : FieldMapping} {settings : List Setting} {c : Config}
    (h : ((Draft.ofMapping m).applyAll settings).build = .ok c) : Obtained c
  | document {doc : Json} {c : Config} (h : ofDocument doc = .ok c) : Obtained c
  | text {format : DocumentFormat} {s : String} {c : Config} (h : ofText format s = .ok c) : Obtained c

/-- Loading a document that describes a draft is building that draft, with no other check behind it. -/
theorem ofDocument_of_describes {doc : Json} {d : Draft} (h : Describes doc d) :
    ofDocument doc = d.build := by
  cases h with
  | intro hmembers hd =>
    rw [ofDocument, hmembers]
    simp only [bind, Except.bind, hd]

/-- A document that is accepted describes its configuration. -/
theorem describes_of_ofDocument {doc : Json} {c : Config} (h : ofDocument doc = .ok c) :
    Describes doc c.toDraft := by
  cases doc with
  | object members =>
    cases hmembers : Options.ofMembers members with
    | error e => simp [ofDocument, hmembers, bind, Except.bind] at h
    | ok options =>
      cases hd : options.draft with
      | error e => simp [ofDocument, hmembers, hd, bind, Except.bind] at h
      | ok d =>
        have hdescribes : Describes (.object members) d := .intro hmembers hd
        rw [ofDocument_of_describes hdescribes] at h
        rwa [Draft.build_eq_ok_iff.1 h]
  -- Only an object has members to read.
  | null | bool | number | string | array => simp [ofDocument] at h

/-- What is obtained in any way has passed the check. -/
private theorem Obtained.exists_build {c : Config} (h : Obtained c) : ∃ d : Draft, d.build = .ok c := by
  cases h with
  | settings h => exact ⟨_, h⟩
  | @document doc _ h => exact ⟨c.toDraft, (ofDocument_of_describes (describes_of_ofDocument h)) ▸ h⟩
  -- A text that is accepted was parsed to a document, which is the case before.
  | @text format s _ h =>
    rw [ofText] at h
    cases hdoc : format.parse? s with
    | none => simp [hdoc] at h
    | some doc =>
      rw [hdoc] at h
      exact ⟨c.toDraft, (ofDocument_of_describes (describes_of_ofDocument h)) ▸ h⟩

/-- A configuration is acceptable in whatever way it was obtained. -/
theorem Obtained.acceptable {c : Config} (h : Obtained c) : c.toDraft.Acceptable := by
  obtain ⟨d, hd⟩ := h.exists_build
  -- Nothing is changed by the check, so the draft that passed it is the one in hand.
  have hchecked := d.checked_build
  rw [hchecked.kept c hd]
  exact hchecked.accepted.1 ⟨c, hd⟩

/-- Settings and documents are accepted exactly when they make an acceptable draft, are refused for its
    first defect, and are kept as they are. For settings this is a matter of the mapping, of the fields
    that get a condition, and of the last default order. A configuration is acceptable in whatever way
    it was obtained. -/
theorem accepts_exactly_the_acceptable :
    (∀ (m : FieldMapping) (settings : List Setting),
      ((Draft.ofMapping m).applyAll settings).Checked ((Draft.ofMapping m).applyAll settings).build ∧
      (((Draft.ofMapping m).applyAll settings).Acceptable ↔
        (m.entries ≠ [] ∧ (∀ e ∈ m.entries, IsKeyText e.1) ∧ ∀ e ∈ m.entries, NamesFields e.2) ∧
        (∀ value, .forced "" value ∉ settings) ∧ (∀ value, .byDefault "" value ∉ settings) ∧
        ∀ terms, (settings.filterMap Setting.terms?).getLast? = some terms →
          ∀ term ∈ terms, ∃ c ∈ term.toList, c ≠ '-')) ∧
    (∀ doc d, Describes doc d → d.Checked (ofDocument doc)) ∧
    (∀ doc c, ofDocument doc = .ok c → Describes doc c.toDraft) ∧
    ∀ c, Obtained c → c.toDraft.Acceptable := by
  refine ⟨fun m settings => ?_, fun doc d h => ?_, fun _ _ => describes_of_ofDocument,
    fun _ => Obtained.acceptable⟩
  · exact ⟨Draft.checked_build _, Draft.acceptable_applyAll_iff⟩
  · rw [ofDocument_of_describes h]
    exact d.checked_build

/-- Options with several defects: two entries of the field mapping, a forced condition on the empty
    field and a term of dashes. -/
def faultyDraft : Draft :=
  (Draft.ofMapping (.ofSteps [.field "st" "status", .fields "due date" [], .fields "q" []])).applyAll
    [.defaultOrder ["-pk", "--"], .forced "" "acme"]

/-- The statement at options with several defects, of which the key of the second entry comes first,
    and at a document that is accepted. -/
theorem accepts_exactly_the_acceptable_first_defect :
    faultyDraft.build = .error (.invalidKey "due date") ∧
      FirstFault faultyDraft.Defect Draft.checkedOptions (.invalidKey "due date") ∧
      ¬ faultyDraft.Acceptable ∧
      ∃ c, ofDocument (.object ticketMembers) = .ok c ∧ Obtained c ∧
        Describes (.object ticketMembers) c.toDraft ∧ c.toDraft.Acceptable := by
  obtain ⟨hsettings, -, hdescribes, hobtained⟩ := accepts_exactly_the_acceptable
  -- The blank term and the condition on the empty field are checked behind the mapping.
  have hbuild : faultyDraft.build = .error (.invalidKey "due date") :=
    Draft.build_eq_error_iff.2 (by decide)
  obtain ⟨hchecked, -⟩ := hsettings
    (.ofSteps [.field "st" "status", .fields "due date" [], .fields "q" []])
    [.defaultOrder ["-pk", "--"], .forced "" "acme"]
  refine ⟨hbuild, (hchecked.refused _).1 hbuild, fun h => ?_, ?_⟩
  · obtain ⟨c, hc⟩ := hchecked.accepted.2 h
    exact nomatch hbuild.symm.trans hc
  · obtain ⟨c, hc⟩ : ∃ c, ofDocument (.object ticketMembers) = .ok c := ⟨_, rfl⟩
    have hway : Obtained c := .document hc
    exact ⟨c, hc, hway, hdescribes _ c hc, hobtained c hway⟩

end Config

end FilterQuery
