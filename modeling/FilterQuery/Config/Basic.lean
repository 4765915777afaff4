import FilterQuery.Config.Error
import FilterQuery.Grammar
import FilterQuery.Table

/-! # Configurations

A draft holds the options of a search endpoint before anyone has looked at them. A configuration is
a sound draft: some key is mapped, every key is made of key characters and stands for at least one
field, and no field name is empty.

* `Draft.firstDefect_eq_none_iff`   a draft without a defect is a sound one
* `Draft.build_eq_ok_iff`, `Draft.build_eq_error_iff`   what `build` accepts and reports
-/

namespace FilterQuery

/-- Which fields each key stands for. -/
abbrev FieldMapping := Table String (List String)

/-- Fields with the values they must have. -/
abbrev FilterMap := Table String String

/-- The options of a search endpoint. -/
structure Draft where
  mapping : FieldMapping
  /-- Conditions of every search. -/
  forcedFilter : Option FilterMap
  /-- Conditions of a search without a filter string. -/
  defaultFilter : Option FilterMap
  /-- The order of a search without a sort string; a leading dash means descending. -/
  defaultOrder : List String
  caseSensitive : Bool
  grammar : Grammar
  deriving DecidableEq

/-- The options with their defaults. -/
def Draft.ofMapping (mapping : FieldMapping) : Draft :=
  ⟨mapping, none, none, [], false, .suffix⟩

/-- A row of nothing but dashes names no field to sort by. -/
def isBlankTerm (term : String) : Bool :=
  term.toList.all (· == '-')

/-! ## Soundness -/

/-- The entry maps a key to fields that have names. -/
def SoundEntry (e : String × List String) : Prop :=
  isKey e.1.toList ∧ e.2 ≠ [] ∧ "" ∉ e.2

instance (e : String × List String) : Decidable (SoundEntry e) :=
  inferInstanceAs (Decidable (_ ∧ _))

/-- The fields of the filter have names. -/
def SoundFilter (filter : Option FilterMap) : Prop :=
  ∀ m ∈ filter, "" ∉ m.keys

instance (filter : Option FilterMap) : Decidable (SoundFilter filter) :=
  match filter with
  | none => .isTrue (by simp [SoundFilter])
  | some m => decidable_of_iff ("" ∉ m.keys) (by simp [SoundFilter])

/-- What a search endpoint needs of its options. -/
structure Draft.Sound (d : Draft) : Prop where
  mapping_ne_nil : d.mapping.entries ≠ []
  entries : ∀ e ∈ d.mapping.entries, SoundEntry e
  forcedFilter : SoundFilter d.forcedFilter
  defaultFilter : SoundFilter d.defaultFilter
  defaultOrder : ∀ term ∈ d.defaultOrder, isBlankTerm term = false

/-- A sound draft. -/
structure Config extends Draft where
  sound : toDraft.Sound

@[ext] theorem Config.ext {a b : Config} (h : a.toDraft = b.toDraft) : a = b := by
  cases a
  cases b
  simp_all

instance : DecidableEq Config := fun a b =>
  decidable_of_iff (a.toDraft = b.toDraft) ⟨Config.ext, congrArg Config.toDraft⟩

/-! ## The first defect -/

/-- The defect of an entry of the field mapping. -/
def entryDefect (e : String × List String) : Option ConfigError :=
  if isKey e.1.toList then
    if e.2 ≠ [] ∧ "" ∉ e.2 then none else some (.emptyTargets e.1)
  else some (.invalidKey e.1)

/-- The first defect of a field mapping. -/
def FieldMapping.firstDefect (m : FieldMapping) : Option ConfigError :=
  if m.entries = [] then some .missingFieldMapping else m.entries.findSome? entryDefect

/-- The defect of a filter option. -/
def filterDefect (o : ConfigOption) (filter : Option FilterMap) : Option ConfigError :=
  if SoundFilter filter then none else some (.wrongShape (.option o))

/-- The defect of a default order. -/
def orderDefect (terms : List String) : Option ConfigError :=
  if terms.any isBlankTerm then some (.wrongShape (.option .defaultOrder)) else none

namespace Draft

/-- The first defect of a draft: the mapping is checked first, then the filters, then the order. -/
def firstDefect (d : Draft) : Option ConfigError :=
  (FieldMapping.firstDefect d.mapping).or <|
    (filterDefect .forcedFilter d.forcedFilter).or <|
      (filterDefect .defaultFilter d.defaultFilter).or (orderDefect d.defaultOrder)

end Draft

/-- An entry without a defect is a sound one. -/
theorem entryDefect_eq_none_iff {e : String × List String} :
    entryDefect e = none ↔ SoundEntry e := by
  unfold entryDefect SoundEntry
  split
  · rename_i h
    simp [h]
  · rename_i h
    simp [h]

/-- A filter without a defect is a sound one. -/
theorem filterDefect_eq_none_iff {o : ConfigOption} {filter : Option FilterMap} :
    filterDefect o filter = none ↔ SoundFilter filter := by
  simp [filterDefect]

/-- An order without a defect has no blank term. -/
theorem orderDefect_eq_none_iff {terms : List String} :
    orderDefect terms = none ↔ ∀ term ∈ terms, isBlankTerm term = false := by
  simp [orderDefect]

/-- A mapping without a defect has entries, and all of them are sound. -/
theorem FieldMapping.firstDefect_eq_none_iff {m : FieldMapping} :
    FieldMapping.firstDefect m = none ↔
      m.entries ≠ [] ∧ ∀ e ∈ m.entries, SoundEntry e := by
  unfold FieldMapping.firstDefect
  split
  · rename_i h
    simp [h]
  · rename_i h
    simp only [ne_eq, h, not_false_eq_true, true_and, List.findSome?_eq_none_iff]
    exact ⟨fun hm e he => entryDefect_eq_none_iff.1 (hm e he),
      fun hm e he => entryDefect_eq_none_iff.2 (hm e he)⟩

namespace Draft

/-- A draft without a defect is a sound one. -/
theorem firstDefect_eq_none_iff {d : Draft} : d.firstDefect = none ↔ d.Sound := by
  simp only [firstDefect, Option.or_eq_none_iff, FieldMapping.firstDefect_eq_none_iff,
    filterDefect_eq_none_iff, orderDefect_eq_none_iff]
  exact ⟨fun ⟨⟨hm, he⟩, hf, hd, ho⟩ => ⟨hm, he, hf, hd, ho⟩,
    fun h => ⟨⟨h.mapping_ne_nil, h.entries⟩, h.forcedFilter, h.defaultFilter, h.defaultOrder⟩⟩

/-- The configuration of a draft, or its first defect. -/
def build (d : Draft) : Except ConfigError Config :=
  match h : d.firstDefect with
  | some e => .error e
  | none => .ok ⟨d, firstDefect_eq_none_iff.1 h⟩

/-- What is built from a draft is the draft with a proof that it is sound. -/
theorem build_eq_ok_iff {d : Draft} {c : Config} : d.build = .ok c ↔ c.toDraft = d := by
  unfold build
  split
  · rename_i e h
    simp only [reduceCtorEq, false_iff]
    -- A configuration has no defect, so this case cannot be.
    rintro rfl
    simp [firstDefect_eq_none_iff.2 c.sound] at h
  · simp only [Except.ok.injEq]
    constructor
    · rintro rfl
      rfl
    · intro h
      exact Config.ext h.symm

/-- What is reported of a draft is its first defect. -/
theorem build_eq_error_iff {d : Draft} {e : ConfigError} :
    d.build = .error e ↔ d.firstDefect = some e := by
  unfold build
  split
  · rename_i h
    simp [h]
  · rename_i h
    simp [h]

end Draft

/-- A configuration is its own build. -/
@[simp] theorem Config.build_toDraft (c : Config) : c.toDraft.build = .ok c :=
  Draft.build_eq_ok_iff.2 rfl

/-! ## Equality up to the order of entries -/

/-- The filters hold the same entries, in whatever order; an absent filter equals only an absent
one. -/
def SameFilter : Option FilterMap → Option FilterMap → Prop
  | none, none => True
  | some a, some b => a.Same b
  | _, _ => False

instance (a b : Option FilterMap) : Decidable (SameFilter a b) :=
  match a, b with
  | none, none => inferInstanceAs (Decidable True)
  | some a, some b => inferInstanceAs (Decidable (a.Same b))
  | none, some _ | some _, none => inferInstanceAs (Decidable False)

/-- The configurations agree in every option. The order of lists counts, the order of entries in
mappings does not. -/
def Config.Same (a b : Config) : Prop :=
  a.mapping.Same b.mapping ∧ SameFilter a.forcedFilter b.forcedFilter ∧
    SameFilter a.defaultFilter b.defaultFilter ∧ a.defaultOrder = b.defaultOrder ∧
    a.caseSensitive = b.caseSensitive ∧ a.grammar = b.grammar

instance (a b : Config) : Decidable (a.Same b) :=
  inferInstanceAs (Decidable (_ ∧ _))

end FilterQuery
