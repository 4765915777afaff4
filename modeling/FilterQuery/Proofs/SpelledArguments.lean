import FilterQuery.CommandLine.Arguments

/-!
# Arguments that spell options

An option and its value stand among the arguments as two arguments or as one, with an equals sign in
between. The reader takes options from the front, so a list of spelled options is read option by option.

The two spellings differ in one respect: as an argument of its own a value may be taken for an option,
`ValueOption.accepts`; after an equals sign it never is.

## Key results

- `Switch.ofArg?_name`, `Switch.ofArg?_joined`: the first argument of an option
- `Command.read?_spell`: reading one spelled option
- `Command.ofArgs?_searchArguments`: reading all arguments of a search
-/

namespace FilterQuery.CommandLine

/-- How an option and its value stand among the arguments. -/
inductive Spelling where
  /-- The value is an argument of its own. -/
  | separate
  /-- The value follows an equals sign. -/
  | joined
  deriving DecidableEq

namespace ValueOption

/-- The arguments that give an option a value. -/
def spell (o : ValueOption) : Spelling → String → List String
  | .separate, value => ["--" ++ o.name, value]
  | .joined, value => ["--" ++ o.name ++ "=" ++ value]

/-- The arguments of an option that may be left out. -/
def spell? (o : ValueOption) (spelling : Spelling) : Option String → List String
  | some value => o.spell spelling value
  | none => []

/-- The value is read as the value of the option in this spelling. -/
def Reaches (o : ValueOption) (spelling : Spelling) (value : String) : Prop :=
  spelling = .joined ∨ o.accepts value = true

instance (o : ValueOption) (spelling : Spelling) (value : String) :
    Decidable (o.Reaches spelling value) :=
  inferInstanceAs (Decidable (_ ∨ _))

private theorem equals_notMem_name (o : ValueOption) : '=' ∉ o.name.toList := by
  cases o <;> decide

/-- Any text is taken as a filter string, in both spellings. -/
private theorem reaches_filter (spelling : Spelling) (value : String) :
    ValueOption.filter.Reaches spelling value := .inr rfl

private theorem reaches_sort (spelling : Spelling) (value : String) :
    ValueOption.sort.Reaches spelling value := .inr rfl

/-- The name of a format does not look like an option. -/
private theorem reaches_format (spelling : Spelling) (f : OutputFormat) :
    ValueOption.format.Reaches spelling f.name := by
  cases f <;> exact .inr (by decide)

end ValueOption

/-! ## One option -/

namespace Switch

theorem ofName?_name (o : ValueOption) : ofName? o.name.toList = some (.takes o) := by
  cases o <;> decide

/-- Two dashes and the name of an option ask for the option, without a value so far. -/
theorem ofArg?_name (o : ValueOption) : ofArg? ("--" ++ o.name) = some (.takes o, none) := by
  cases o <;> decide

/-- With an equals sign behind the name the rest of the argument is the value. -/
theorem ofArg?_joined (o : ValueOption) (value : String) :
    ofArg? ("--" ++ o.name ++ "=" ++ value) = some (.takes o, some value) := by
  have hchars : ("--" ++ o.name ++ "=" ++ value).toList =
      '-' :: '-' :: (o.name.toList ++ '=' :: value.toList) := by
    simp
  -- The name ends at the first equals sign; the value may hold others.
  have hcut : Text.cut? '=' (o.name.toList ++ '=' :: value.toList) =
      some (o.name.toList, value.toList) :=
    Text.cut?_eq_some_iff.2 ⟨rfl, o.equals_notMem_name⟩
  simp only [ofArg?, hchars, ofLong?, hcut, ofName?_name, String.ofList_toList]

end Switch

namespace Command

variable {given : Given} {o : ValueOption} {rest : List String}

/-- An option without a value takes the next argument, unless that looks like an option. -/
private theorem read?_separate {arg value : String} (harg : arg ≠ "--")
    (hswitch : Switch.ofArg? arg = some (.takes o, none)) :
    read? given (arg :: value :: rest) =
      if o.accepts value then (given.set? value o).bind fun g => read? g rest else none := by
  -- Reading calls itself on the rest, so its equation is opened once.
  rw [read?.eq_def]
  simp only [if_neg harg, hswitch]
  cases given.set? value o <;> rfl

/-- An option that has its value leaves the next argument alone. -/
private theorem read?_joined {arg value : String} (harg : arg ≠ "--")
    (hswitch : Switch.ofArg? arg = some (.takes o, some value)) :
    read? given (arg :: rest) = (given.set? value o).bind fun g => read? g rest := by
  rw [read?.eq_def]
  simp only [if_neg harg, hswitch]
  cases given.set? value o <;> rfl

/-- One spelled option is read from the front. -/
theorem read?_spell (spelling : Spelling) (value : String) :
    read? given (o.spell spelling value ++ rest) =
      if o.Reaches spelling value then (given.set? value o).bind fun g => read? g rest else none := by
  cases spelling with
  | separate =>
    -- Two dashes alone would end the options, but a name follows them.
    have hdashes : "--" ++ o.name ≠ "--" := by cases o <;> decide
    have hreaches : o.Reaches .separate value ↔ o.accepts value = true := by
      simp [ValueOption.Reaches]
    simp only [hreaches]
    exact read?_separate hdashes (Switch.ofArg?_name o)
  | joined =>
    -- With an equals sign in it the argument is longer than two dashes.
    have hdashes : "--" ++ o.name ++ "=" ++ value ≠ "--" := by
      intro h
      have hlist := congrArg String.toList h
      cases o <;> simp at hlist
    have hreaches : o.Reaches .joined value := .inl rfl
    rw [if_pos hreaches]
    exact read?_joined hdashes (Switch.ofArg?_joined o value)

/-- An option that may be left out leads to the same state, given or not, if the state says so. -/
private theorem read?_spell? {next : Given} (spelling : Spelling) (value : Option String)
    (hnone : value = none → given = next)
    (hsome : ∀ v, value = some v → o.Reaches spelling v ∧ given.set? v o = some next) :
    read? given (o.spell? spelling value ++ rest) = read? next rest := by
  cases value with
  | none => rw [ValueOption.spell?, List.nil_append, hnone rfl]
  | some v =>
    obtain ⟨hreaches, hset⟩ := hsome v rfl
    rw [ValueOption.spell?, read?_spell, if_pos hreaches, hset, Option.bind_some]

end Command

/-! ## All arguments of a search -/

/-- The arguments of a search, each option in a spelling of its own. -/
def searchArguments (spelling : ValueOption → Spelling) (config query : String)
    (filter sort : Option String) (format : Option OutputFormat) : List String :=
  ValueOption.config.spell (spelling .config) config ++
    (ValueOption.query.spell (spelling .query) query ++
      (ValueOption.filter.spell? (spelling .filter) filter ++
        (ValueOption.sort.spell? (spelling .sort) sort ++
          (ValueOption.format.spell? (spelling .format) (format.map OutputFormat.name) ++ []))))

namespace Command

/-- The options that may be left out are read after the others. -/
private theorem read?_optional (spelling : ValueOption → Spelling) (config query : String)
    (filter sort : Option String) (format : Option OutputFormat) :
    read? ⟨some config, some query, none, none, none, none⟩
        (ValueOption.filter.spell? (spelling .filter) filter ++
          (ValueOption.sort.spell? (spelling .sort) sort ++
            (ValueOption.format.spell? (spelling .format) (format.map OutputFormat.name) ++ []))) =
      some (.search ⟨config, some query, filter, sort, format.getD .json, "warn"⟩) := by
  -- Each option is given once and in its place, so what has been given is known before every step.
  have hfilter : ∀ v, filter = some v → ValueOption.filter.Reaches (spelling .filter) v ∧
      Given.set? ⟨some config, some query, none, none, none, none⟩ v .filter =
        some ⟨some config, some query, filter, none, none, none⟩ := by
    intro v hv
    subst hv
    exact ⟨ValueOption.reaches_filter _ v, rfl⟩
  have hsort : ∀ v, sort = some v → ValueOption.sort.Reaches (spelling .sort) v ∧
      Given.set? ⟨some config, some query, filter, none, none, none⟩ v .sort =
        some ⟨some config, some query, filter, sort, none, none⟩ := by
    intro v hv
    subst hv
    exact ⟨ValueOption.reaches_sort _ v, rfl⟩
  have hformat : ∀ v, format.map OutputFormat.name = some v →
      ValueOption.format.Reaches (spelling .format) v ∧
        Given.set? ⟨some config, some query, filter, sort, none, none⟩ v .format =
          some ⟨some config, some query, filter, sort, format, none⟩ := by
    intro v hv
    obtain ⟨f, hf, hname⟩ := Option.map_eq_some_iff.1 hv
    subst hf hname
    exact ⟨ValueOption.reaches_format _ f, by simp [Given.set?]⟩
  rw [read?_spell? _ filter (fun h => by rw [h]) hfilter,
    read?_spell? _ sort (fun h => by rw [h]) hsort,
    read?_spell? _ _ (fun h => by rw [Option.map_eq_none_iff.1 h]) hformat]
  rfl

/-- The arguments are read as the search that they spell, if the path and the query string are read as
    values. The values of the other options always are. -/
theorem ofArgs?_searchArguments (spelling : ValueOption → Spelling) (config query : String)
    (filter sort : Option String) (format : Option OutputFormat) :
    ofArgs? (searchArguments spelling config query filter sort format) =
      if ValueOption.config.Reaches (spelling .config) config ∧ config ≠ "" ∧
          ValueOption.query.Reaches (spelling .query) query then
        some (.search ⟨config, some query, filter, sort, format.getD .json, "warn"⟩)
      else none := by
  rw [ofArgs?, searchArguments, read?_spell]
  -- The arguments are read in their order, so the first value that is not taken ends the reading.
  by_cases hconfig : ValueOption.config.Reaches (spelling .config) config
  · by_cases hpath : config = ""
    -- An empty path is refused where it is set.
    · have hset : Given.nothing.set? config .config = none := by simp [Given.set?, hpath]
      rw [if_pos hconfig, hset, Option.bind_none, if_neg fun h => h.2.1 hpath]
    have hset : Given.nothing.set? config .config =
        some ⟨some config, none, none, none, none, none⟩ := by
      simp [Given.set?, Given.nothing, hpath]
    rw [if_pos hconfig, hset, Option.bind_some, read?_spell]
    by_cases hquery : ValueOption.query.Reaches (spelling .query) query
    · have hset' : Given.set? ⟨some config, none, none, none, none, none⟩ query .query =
          some ⟨some config, some query, none, none, none, none⟩ := rfl
      rw [if_pos hquery, hset', Option.bind_some, read?_optional, if_pos ⟨hconfig, hpath, hquery⟩]
    · rw [if_neg hquery, if_neg fun h => hquery h.2.2]
  · rw [if_neg hconfig, if_neg fun h => hconfig h.1]

end Command

end FilterQuery.CommandLine
