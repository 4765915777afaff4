import FilterQuery.Config.Document
import FilterQuery.Proofs.FirstFault

/-!
# What is wrong with a document

A document is read member by member, and an object inside it entry by entry; the first that is at
fault decides the error. This file says which members are at fault, `MemberFault`, on the values
alone, and proves that reading a document fails with the first of them.

## Key results

- `Options.table_eq_error_iff`, `Options.table_eq_ok`: reading the entries of an object
- `Options.read_eq_error_iff`, `Options.readMember_eq_error_iff`: what is wrong with one member
- `Options.ofMembers_eq_error_iff`: reading a document fails with the first member at fault
-/

namespace FilterQuery

/-! ## The shapes of values -/

/-- The fields of a key: a text, or a list of texts. -/
inductive IsTarget : Json → Prop where
  | one (field : String) : IsTarget (.string field)
  | several (fields : List String) : IsTarget (.array (fields.map .string))

/-- What a filter can compare with: a text, a number or a boolean. -/
inductive IsFilterValue : Json → Prop where
  | string (s : String) : IsFilterValue (.string s)
  | number (n : Number) : IsFilterValue (.number n)
  | bool (b : Bool) : IsFilterValue (.bool b)

/-- The outer shape of an option's value. A null stands for an absent option. -/
inductive HasShape : ConfigOption → Json → Prop where
  | null (o : ConfigOption) : HasShape o .null
  | fieldMapping (entries : List (String × Json)) : HasShape .fieldMapping (.object entries)
  | forcedFilter (entries : List (String × Json)) : HasShape .forcedFilter (.object entries)
  | defaultFilter (entries : List (String × Json)) : HasShape .defaultFilter (.object entries)
  | defaultOrder (terms : List String) : HasShape .defaultOrder (.array (terms.map .string))
  | caseSensitive (b : Bool) : HasShape .caseSensitive (.bool b)
  | grammar (g : Grammar) : HasShape .grammar (.string g.name)

/-- An entry of a field mapping or of a filter is at fault; its place names the option and the
    entry. -/
inductive EntryFault : ConfigOption → String × Json → ConfigError → Prop where
  | target {key : String} {v : Json} (h : ¬ IsTarget v) :
    EntryFault .fieldMapping (key, v) (.wrongShape (.target key))
  | forced {field : String} {v : Json} (h : ¬ IsFilterValue v) :
    EntryFault .forcedFilter (field, v) (.wrongShape (.filterValue .forcedFilter field))
  | byDefault {field : String} {v : Json} (h : ¬ IsFilterValue v) :
    EntryFault .defaultFilter (field, v) (.wrongShape (.filterValue .defaultFilter field))

/-- An entry at fault is reported under the names of the option and the entry. -/
theorem EntryFault.exists_place {o : ConfigOption} {x : String × Json} {e : ConfigError}
    (h : EntryFault o x e) :
    ∃ place : Place, e = .wrongShape place ∧ place.name = o.name ++ "." ++ x.1 := by
  cases h <;> exact ⟨_, rfl, rfl⟩

/-- The value of an option is at fault: its outer shape is wrong, or an entry of it. -/
inductive ValueFault : ConfigOption → Json → ConfigError → Prop where
  | shape {o : ConfigOption} {v : Json} (h : ¬ HasShape o v) : ValueFault o v (.wrongShape (.option o))
  | entry {o : ConfigOption} {entries : List (String × Json)} {e : ConfigError}
    (h : FirstFault (EntryFault o) entries e) : ValueFault o (.object entries) e

/-- A member of a document is at fault: its name is unknown, whatever the value, or its value is at
    fault. -/
inductive MemberFault : String × Json → ConfigError → Prop where
  | unknown {name : String} {v : Json} (h : ∀ o : ConfigOption, o.name ≠ name) :
    MemberFault (name, v) (.unknownOption name)
  | value {o : ConfigOption} {v : Json} {e : ConfigError} (h : ValueFault o v e) :
    MemberFault (o.name, v) e

/-- A name is unknown when it is the name of no option. -/
private theorem ConfigOption.ofName?_eq_none_iff {s : String} :
    ofName? s = none ↔ ∀ o : ConfigOption, o.name ≠ s := by
  constructor
  · rintro h o rfl
    simp at h
  · intro h
    cases hs : ofName? s with
    | none => rfl
    | some o => exact absurd (name_of_ofName? hs) (h o)

theorem ConfigOption.name_injective {o p : ConfigOption} (h : o.name = p.name) : o = p := by
  simpa using congrArg ofName? h

/-- What is wrong with a member that an option is named by is what is wrong with its value. -/
theorem memberFault_name_iff {o : ConfigOption} {v : Json} {e : ConfigError} :
    MemberFault (o.name, v) e ↔ ValueFault o v e := by
  constructor
  · -- The pair is generalized, for its name is not a variable that cases could take apart.
    generalize hm : (o.name, v) = m
    intro h
    cases h with
    | unknown h => exact absurd (Prod.mk.inj hm).1 (h o)
    | value h =>
      obtain ⟨hname, rfl⟩ := Prod.mk.inj hm
      rwa [ConfigOption.name_injective hname]
  · exact .value

/-- Of a member with an unknown name the name is reported, whatever its value. -/
private theorem memberFault_unknown_iff {name : String} (hname : ∀ o : ConfigOption, o.name ≠ name)
    {v : Json}
    {e : ConfigError} : MemberFault (name, v) e ↔ e = .unknownOption name := by
  constructor
  · generalize hm : (name, v) = m
    intro h
    cases h with
    | unknown => rw [(Prod.mk.inj hm).1]
    | @value o => exact absurd (Prod.mk.inj hm).1.symm (hname o)
  · rintro rfl
    exact .unknown hname

/-! ## Reading values -/

namespace Options

private theorem texts?_cons (v : Json) (items : List Json) :
    texts? (v :: items) =
      match v with
      | .string s => (texts? items).map (s :: ·)
      | _ => none := by
  cases v with
  | string s =>
    simp only [texts?, List.mapM_cons, Option.map_eq_bind]
    rfl
  | null | bool | number | array | object => simp [texts?]

/-- The texts of a list are all its items. -/
theorem texts?_eq_some_iff {items : List Json} {texts : List String} :
    texts? items = some texts ↔ items = texts.map .string := by
  induction items generalizing texts with
  | nil => simp [texts?, eq_comm]
  | cons v items ih =>
    rw [texts?_cons]
    cases v with
    -- A string takes one text off the list on either side.
    | string s =>
      simp only [Option.map_eq_some_iff, ih]
      constructor
      · rintro ⟨rest, rfl, rfl⟩
        rfl
      · intro h
        cases texts with
        | nil => simp at h
        | cons t texts =>
          simp only [List.map_cons, List.cons.injEq, Json.string.injEq] at h
          exact ⟨texts, h.2, by rw [h.1]⟩
    | null | bool | number | array | object => cases texts <;> simp

@[simp] theorem texts?_map_string (texts : List String) : texts? (texts.map .string) = some texts :=
  texts?_eq_some_iff.2 rfl

/-- The fields of a key can be read from a target and from nothing else. -/
private theorem exists_targets?_iff {v : Json} : (∃ fields, targets? v = some fields) ↔ IsTarget v := by
  constructor
  · rintro ⟨fields, h⟩
    cases v with
    | string field => exact .one field
    | array items =>
      obtain rfl := texts?_eq_some_iff.1 h
      exact .several fields
    | null | bool | number | object => simp [targets?] at h
  · intro h
    cases h with
    | one field => exact ⟨_, rfl⟩
    | several fields => exact ⟨fields, texts?_map_string fields⟩

/-- A text to compare with can be read from a filter value and from nothing else. -/
private theorem exists_filterText?_iff {v : Json} :
    (∃ text, filterText? v = some text) ↔ IsFilterValue v := by
  constructor
  · rintro ⟨text, h⟩
    cases v with
    | string s => exact .string s
    | number n => exact .number n
    | bool b => exact .bool b
    | null | array | object => simp [filterText?] at h
  · intro h
    cases h with
    | string s => exact ⟨s, rfl⟩
    | number n => exact ⟨n.text, rfl⟩
    | bool b => cases b <;> exact ⟨_, rfl⟩

/-! ## Reading the entries of an object -/

section

variable {α : Type} {read? : Json → Option α} {place : String → Place}

/-- Reading the entries of an object fails with the place of the first that cannot be read. -/
theorem table_eq_error_iff {entries : List (String × Json)} {e : ConfigError} :
    table read? place entries = .error e ↔
      FirstFault (fun (x : String × Json) e => read? x.2 = none ∧ e = .wrongShape (place x.1))
        entries e := by
  -- Whether an entry can be read does not depend on the table so far.
  refine foldlM_eq_error_iff (fun t x e => ?_) Table.empty entries e
  obtain ⟨k, v⟩ := x
  cases hread : read? v with
  | none => simp [hread, eq_comm]
  | some a => simp [hread]

/-- Reading the entries of an object inserts what they stand for, from the first to the last. -/
theorem table_eq_ok {β : Type} {entries : List (String × Json)} {pick : String × Json → Option β}
    {put : Table String α → β → Table String α}
    (h : ∀ x ∈ entries, ∃ b a, pick x = some b ∧ read? x.2 = some a ∧ ∀ t, put t b = t.insert x.1 a) :
    table read? place entries = .ok ((entries.filterMap pick).foldl put Table.empty) := by
  unfold table
  -- The table so far is generalized from the empty one.
  generalize Table.empty = t
  induction entries generalizing t with
  | nil => rfl
  | cons x entries ih =>
    obtain ⟨b, a, hpick, hread, hput⟩ := h x (List.mem_cons_self ..)
    rw [List.filterMap_cons_some hpick, List.foldlM_cons, List.foldl_cons, hput]
    simp only [hread]
    exact ih (fun y hy => h y (List.mem_cons_of_mem x hy)) (t.insert x.1 a)

end

/-! ## Reading a member -/

/-- An entry of a field mapping that cannot be read is one at fault, and is reported as such. -/
private theorem entryFault_mapping_iff {x : String × Json} {e : ConfigError} :
    targets? x.2 = none ∧ e = .wrongShape (.target x.1) ↔ EntryFault .fieldMapping x e := by
  obtain ⟨key, v⟩ := x
  rw [Option.eq_none_iff_forall_ne_some, ← not_exists, exists_targets?_iff]
  constructor
  · rintro ⟨h, rfl⟩
    exact .target h
  · intro h
    cases h with
    | target h => exact ⟨h, rfl⟩

private theorem entryFault_filter_iff {o : ConfigOption} (ho : o = .forcedFilter ∨ o = .defaultFilter)
    {x : String × Json} {e : ConfigError} :
    filterText? x.2 = none ∧ e = .wrongShape (.filterValue o x.1) ↔ EntryFault o x e := by
  obtain ⟨field, v⟩ := x
  rw [Option.eq_none_iff_forall_ne_some, ← not_exists, exists_filterText?_iff]
  constructor
  · rintro ⟨h, rfl⟩
    rcases ho with rfl | rfl
    · exact .forced h
    · exact .byDefault h
  · intro h
    cases h with
    | target => simp at ho
    | forced h => exact ⟨h, rfl⟩
    | byDefault h => exact ⟨h, rfl⟩

/-- A value of another outer shape is refused as a whole. -/
private theorem read_of_not_hasShape (options : Options) {o : ConfigOption} {v : Json}
    (h : ¬ HasShape o v) :
    options.read o v = .error (.wrongShape (.option o)) := by
  unfold read
  -- Every case but the last reads values of a right shape; the lists and names among them may be wrong.
  split
  · exact absurd (.fieldMapping _) h
  · exact absurd (.forcedFilter _) h
  · exact absurd (.defaultFilter _) h
  · rename_i items
    cases htexts : texts? items with
    | none => rfl
    | some terms =>
      obtain rfl := texts?_eq_some_iff.1 htexts
      exact absurd (.defaultOrder terms) h
  · exact absurd (.caseSensitive _) h
  · rename_i s
    cases hname : Grammar.ofName? s with
    | none => rfl
    | some g =>
      obtain rfl : g.name = s := by simpa using List.find?_some hname
      exact absurd (.grammar g) h
  · rfl

/-- Only the options that hold entries have entries at fault. -/
private theorem hasShape_of_firstFault {o : ConfigOption} {entries : List (String × Json)}
    {e : ConfigError}
    (h : FirstFault (EntryFault o) entries e) : HasShape o (.object entries) := by
  -- A first fault is the fault of some entry.
  have hentry : ∃ x ∈ entries, ∃ e, EntryFault o x e := by
    refine Classical.byContradiction fun hno => not_firstFault_iff.2 ?_ e h
    intro x hx e he
    exact hno ⟨x, hx, e, he⟩
  obtain ⟨x, -, e', he⟩ := hentry
  cases he with
  | target => exact .fieldMapping entries
  | forced => exact .forcedFilter entries
  | byDefault => exact .defaultFilter entries

/-- The result of an option with entries is refused where the entries are. -/
private theorem map_eq_error_iff {α β : Type} {x : Except ConfigError α} {f : α → β} {e : ConfigError} :
    (do return f (← x)) = .error e ↔ x = .error e := by
  cases x <;> simp [bind, Except.bind, pure, Except.pure]

/-- What is wrong with a value that is not null is what reading it reports. -/
theorem read_eq_error_iff {options : Options} {o : ConfigOption} {v : Json} {e : ConfigError}
    (hv : v ≠ .null) : options.read o v = .error e ↔ ValueFault o v e := by
  by_cases hshape : HasShape o v
  · -- The outer shape is right, so it is a matter of the entries, if there are any.
    have hentries : ValueFault o v e ↔
        ∃ entries, v = .object entries ∧ FirstFault (EntryFault o) entries e := by
      constructor
      · intro h
        cases h with
        | shape h => exact absurd hshape h
        | entry h => exact ⟨_, rfl, h⟩
      · rintro ⟨entries, rfl, h⟩
        exact .entry h
    rw [hentries]
    cases hshape with
    | null => exact absurd rfl hv
    | fieldMapping entries =>
      simp only [read, map_eq_error_iff, table_eq_error_iff, entryFault_mapping_iff,
        Json.object.injEq, exists_eq_left']
    | forcedFilter entries =>
      simp only [read, map_eq_error_iff, table_eq_error_iff, entryFault_filter_iff (.inl rfl),
        Json.object.injEq, exists_eq_left']
    | defaultFilter entries =>
      simp only [read, map_eq_error_iff, table_eq_error_iff, entryFault_filter_iff (.inr rfl),
        Json.object.injEq, exists_eq_left']
    | defaultOrder terms => simp [read]
    | caseSensitive b => simp [read]
    | grammar g => simp [read]
  · -- The outer shape is wrong, so the value is refused before its entries are looked at.
    rw [read_of_not_hasShape options hshape, Except.error.injEq]
    constructor
    · rintro rfl
      exact .shape hshape
    · intro h
      cases h with
      | shape => rfl
      | entry h => exact absurd (hasShape_of_firstFault h) hshape

/-- What is wrong with a member is what reading it reports, whatever was read before. -/
theorem readMember_eq_error_iff {options : Options} {name : String} {v : Json} {e : ConfigError} :
    options.readMember name v = .error e ↔ MemberFault (name, v) e := by
  unfold readMember
  cases hname : ConfigOption.ofName? name with
  | none =>
    rw [memberFault_unknown_iff (ConfigOption.ofName?_eq_none_iff.1 hname), Except.error.injEq,
      eq_comm]
  | some o =>
    -- A name that an option answers to is its own.
    obtain rfl := ConfigOption.name_of_ofName? hname
    rw [memberFault_name_iff]
    cases v with
    -- A null leaves the option alone, and no shape forbids it.
    | null =>
      refine ⟨nofun, fun h => ?_⟩
      cases h with
      | shape h => exact absurd (.null o) h
    | bool | number | string | array | object => exact read_eq_error_iff nofun

/-- Reading a document fails with the first member at fault. -/
theorem ofMembers_eq_error_iff {members : List (String × Json)} {e : ConfigError} :
    ofMembers members = .error e ↔ FirstFault MemberFault members e := by
  -- Whether a member is at fault does not depend on the options so far.
  refine foldlM_eq_error_iff (fun options m e => ?_) absent members e
  obtain ⟨name, v⟩ := m
  exact readMember_eq_error_iff

end Options

end FilterQuery
