import FilterQuery.Proofs.DocumentSettings
import FilterQuery.Proofs.FilledTables

/-!
# The order of members

A document is read from its first member to its last and refused at the first one at fault, so the order
of members decides which error is reported. It decides nothing else: a document with its members in
another order is accepted when the document is, as a configuration that is the same. The order of the
entries in a field mapping or in a filter decides as little.

## Key results

- `Document.Rearranged`: documents that differ in the order of members and entries
- `Document.forall_not_memberFault_iff_of_rearranged`: such documents have faults alike
- `Document.given_reordered`: they give each option values that differ in the order of entries
- `Document.sameResult_of_rearranged`: they load alike
- `Config.search_and_ofDocument_up_to_order`: what the order of entries decides, for the searches of a
  configuration and for the documents that it is loaded from
-/

namespace FilterQuery

/-! ## Tables of distinct pairs -/

section

variable {α β γ : Type}

/-- What is picked from pairs under their keys has no other keys. -/
theorem Pairs.keys_filterMap_sublist {f : α × β → Option (α × γ)}
    (hf : ∀ x p, f x = some p → p.1 = x.1) (es : List (α × β)) :
    ((es.filterMap f).map Prod.fst).Sublist (es.map Prod.fst) := by
  -- A pair is left out, or its key is kept in its place.
  induction es with
  | nil => exact .slnil
  | cons x es ih =>
    cases hx : f x with
    | none =>
      rw [List.filterMap_cons_none hx]
      exact ih.cons _
    | some p =>
      rw [List.filterMap_cons_some hx, List.map_cons, List.map_cons, hf x p hx]
      exact ih.cons_cons _

namespace Table

variable [DecidableEq α]

/-- Tables that are picked from the same pairs are the same, if the keys are distinct. -/
private theorem same_ofList_filterMap {f : α × β → Option (α × γ)}
    (hf : ∀ x p, f x = some p → p.1 = x.1) {es fs : List (α × β)} (h : es.Perm fs)
    (hn : (es.map Prod.fst).Nodup) :
    (ofList (es.filterMap f)).Same (ofList (fs.filterMap f)) := by
  have hes : ((es.filterMap f).map Prod.fst).Nodup := (Pairs.keys_filterMap_sublist hf es).nodup hn
  have hpicked : (es.filterMap f).Perm (fs.filterMap f) := h.filterMap f
  have hfs : ((fs.filterMap f).map Prod.fst).Nodup := (hpicked.map Prod.fst).nodup_iff.1 hes
  -- With distinct keys a table holds the pairs as they were written.
  rw [same_iff_perm, entries_ofList hes, entries_ofList hfs]
  exact hpicked

end Table

end

/-! ## Documents in another order -/

/-- What goes for each item of a list goes for its counterparts in another. -/
theorem forall_mem_iff_of_forall₂ {α β : Type} {R : α → β → Prop} {P : α → Prop} {Q : β → Prop}
    {as : List α} {bs : List β} (h : List.Forall₂ R as bs) (hPQ : ∀ a b, R a b → (P a ↔ Q b)) :
    (∀ a ∈ as, P a) ↔ ∀ b ∈ bs, Q b := by
  induction h with
  | nil => simp
  | cons hab _ ih => rw [List.forall_mem_cons, List.forall_mem_cons, hPQ _ _ hab, ih]

namespace Json

/-- The values are equal, or objects with the same members in some order. -/
inductive Reordered : Json → Json → Prop where
  | refl (v : Json) : Reordered v v
  | object {members members' : List (String × Json)} (h : members.Perm members') :
    Reordered (.object members) (.object members')

/-- The members have one name, and values that are equal or differ in the order of entries. -/
structure MemberReordered (m n : String × Json) : Prop where
  name : m.1 = n.1
  value : m.2.Reordered n.2

variable {v w : Json} {members members' : List (String × Json)}

theorem Reordered.symm (h : v.Reordered w) : w.Reordered v := by
  cases h with
  | refl => exact .refl v
  | object h => exact .object h.symm

theorem MemberReordered.symm {m n : String × Json} (h : MemberReordered m n) : MemberReordered n m :=
  ⟨h.name.symm, h.value.symm⟩

/-- Whether members have distinct names does not depend on their order. -/
private theorem MembersOnce.perm (hm : MembersOnce members) (h : members.Perm members') :
    MembersOnce members' := by
  have hnames : (members'.map Prod.fst).Nodup := (h.map Prod.fst).nodup_iff.1 hm.nodup
  exact ⟨hnames, fun m hmem => hm.values m (h.mem_iff.2 hmem)⟩

/-- A value that names members once does so in any order of its entries. -/
private theorem NamesOnce.reordered (hv : v.NamesOnce) (h : v.Reordered w) : w.NamesOnce := by
  cases h with
  | refl => exact hv
  | object h =>
    rw [namesOnce_object_iff] at hv ⊢
    exact hv.perm h

/-- Members that differ in the order of entries name members once alike. -/
private theorem MemberReordered.namesOnce_iff {m n : String × Json} (h : MemberReordered m n) :
    m.2.NamesOnce ↔ n.2.NamesOnce :=
  ⟨fun hm => hm.reordered h.value, fun hn => hn.reordered h.symm.value⟩

private theorem names_eq_of_forall₂ (h : List.Forall₂ MemberReordered members members') :
    members.map Prod.fst = members'.map Prod.fst := by
  induction h with
  | nil => rfl
  | cons hmn _ ih => rw [List.map_cons, List.map_cons, hmn.name, ih]

/-- Members that correspond to distinct ones are distinct. -/
private theorem MembersOnce.forall₂ (hm : MembersOnce members)
    (h : List.Forall₂ MemberReordered members members') : MembersOnce members' := by
  have hnames : (members'.map Prod.fst).Nodup := names_eq_of_forall₂ h ▸ hm.nodup
  exact ⟨hnames, (forall_mem_iff_of_forall₂ h fun _ _ hmn => hmn.namesOnce_iff).1 hm.values⟩

end Json

namespace Document

open Json (Reordered MemberReordered MembersOnce)

/-- The members in some order, and in each object among their values the entries in some order. -/
def Rearranged (members members' : List (String × Json)) : Prop :=
  ∃ middle, members.Perm middle ∧ List.Forall₂ MemberReordered middle members'

variable {o : ConfigOption} {v w : Json} {members members' : List (String × Json)}

/-- A document that names members once does so in any order of members and entries. -/
private theorem membersOnce_of_rearranged (h : Rearranged members members') (hm : MembersOnce members) :
    MembersOnce members' := by
  obtain ⟨middle, hperm, hvalues⟩ := h
  exact (hm.perm hperm).forall₂ hvalues

/-! ## Faults -/

/-- The outer shape of a value does not depend on the order of its entries. -/
private theorem hasShape_of_reordered (h : v.Reordered w) (hv : HasShape o v) : HasShape o w := by
  cases h with
  | refl => exact hv
  | object =>
    -- Objects are in shape for three options, whatever their entries are.
    cases hv with
    | fieldMapping => exact .fieldMapping _
    | forcedFilter => exact .forcedFilter _
    | defaultFilter => exact .defaultFilter _

/-- A value stays without a fault, for its outer shape does not change and each entry is looked at by
    itself. -/
private theorem not_valueFault_of_reordered (h : v.Reordered w) (hv : ∀ e, ¬ ValueFault o v e) :
    ∀ e, ¬ ValueFault o w e := by
  intro e he
  cases he with
  | shape hshape =>
    have hw : ¬ HasShape o v := fun hs => hshape (hasShape_of_reordered h hs)
    exact hv _ (.shape hw)
  | entry hentry =>
    cases h with
    | refl => exact hv e (.entry hentry)
    | object hperm =>
      refine not_firstFault_iff.2 (fun x hx => ?_) e hentry
      exact not_entryFault_of_not_valueFault hv x (hperm.mem_iff.2 hx)

/-- A member stays without a fault when its entries are put in another order. -/
private theorem not_memberFault_of_reordered {m n : String × Json} (h : MemberReordered m n)
    (hm : ∀ e, ¬ MemberFault m e) : ∀ e, ¬ MemberFault n e := by
  obtain ⟨name, v⟩ := m
  -- The name is the same, so it is known in both or in neither.
  obtain rfl : name = n.1 := h.name
  intro e he
  cases he with
  | unknown hname => exact hm _ (.unknown hname)
  | value hvalue => exact not_valueFault_of_reordered h.value (fun e he => hm e (.value he)) e hvalue

/-- Documents that differ in the order of members and entries have faults alike. Which fault is the
    first may differ. -/
theorem forall_not_memberFault_iff_of_rearranged (h : Rearranged members members') :
    (∀ m ∈ members, ∀ e, ¬ MemberFault m e) ↔ ∀ m ∈ members', ∀ e, ¬ MemberFault m e := by
  obtain ⟨middle, hperm, hvalues⟩ := h
  -- A permutation has the same members; the rest is one by one.
  have hmiddle : (∀ m ∈ members, ∀ e, ¬ MemberFault m e) ↔ ∀ m ∈ middle, ∀ e, ¬ MemberFault m e :=
    forall_congr' fun m => imp_congr_left hperm.mem_iff
  rw [hmiddle]
  exact forall_mem_iff_of_forall₂ hvalues fun m n hmn =>
    ⟨not_memberFault_of_reordered hmn, not_memberFault_of_reordered hmn.symm⟩

/-! ## Values -/

/-- Where members correspond one by one, so do the values that options are given. -/
private theorem given_reordered_of_forall₂ (h : List.Forall₂ MemberReordered members members')
    (o : ConfigOption) : (given members o).Reordered (given members' o) := by
  -- Member by member: an option that none has named so far is given a null on both sides.
  induction h with
  | nil => exact .refl .null
  | @cons m n ms ns hmn _ ih =>
    obtain ⟨name, v⟩ := m
    obtain ⟨name', w⟩ := n
    obtain rfl : name = name' := hmn.name
    -- The names agree pairwise, so an option is found at the same place in both.
    by_cases hname : name = o.name
    · have hleft : given ((name, v) :: ms) o = v := by simp [given, Pairs.get?, hname]
      have hright : given ((name, w) :: ns) o = w := by simp [given, Pairs.get?, hname]
      rw [hleft, hright]
      exact hmn.value
    · have hleft : given ((name, v) :: ms) o = given ms o := by simp [given, Pairs.get?, hname]
      have hright : given ((name, w) :: ns) o = given ns o := by simp [given, Pairs.get?, hname]
      rw [hleft, hright]
      exact ih

/-- Documents that differ in the order of members and entries give each option values that differ in
    the order of entries at most. -/
theorem given_reordered (h : Rearranged members members') (hnames : (members.map Prod.fst).Nodup)
    (o : ConfigOption) : (given members o).Reordered (given members' o) := by
  obtain ⟨middle, hperm, hvalues⟩ := h
  -- Names are distinct, so looking one up does not depend on the order of members.
  have hmiddle : given members o = given middle o := by
    rw [given, given, Pairs.get?_eq_of_perm hperm hnames]
  rw [hmiddle]
  exact given_reordered_of_forall₂ hvalues o

private theorem namesOnce_given (hm : MembersOnce members) (o : ConfigOption) :
    (given members o).NamesOnce := by
  rw [given]
  cases hv : Pairs.get? o.name members with
  | none => exact .null
  | some v => exact hm.values _ (Pairs.mem_keys_of_get? hv)

/-- The key of a step and the fields that it comes to stand for. -/
def entryOf : MappingStep → String × List String
  | .field key field => (key, [field])
  | .fields key fields => (key, fields)

/-- A field mapping is filled by its steps as a table is by writes. -/
theorem ofSteps_eq_ofList (steps : List MappingStep) :
    FieldMapping.ofSteps steps = Table.ofList (steps.map entryOf) := by
  have hstep : (fun (m : FieldMapping) s => m.insert (entryOf s).1 (entryOf s).2) =
      FieldMapping.apply := by
    funext m s
    cases s <;> rfl
  rw [FieldMapping.ofSteps, Table.ofList, List.foldl_map]
  exact congrArg (fun f => steps.foldl f Table.empty) hstep.symm

/-- The condition of an entry is for the field that the entry names. -/
theorem condition?_key (x : String × Json) (c : String × String) (h : condition? x = some c) :
    c.1 = x.1 := by
  obtain ⟨field, v⟩ := x
  cases v with
  | string | number | bool => rw [← Option.some.inj h]
  | null | array | object => exact nomatch h

/-- The step of an entry is for the key that the entry names. -/
private theorem mappingEntry_key (x : String × Json) (e : String × List String)
    (h : (mappingStep? x).map entryOf = some e) : e.1 = x.1 := by
  obtain ⟨key, v⟩ := x
  cases v with
  | string | array => rw [← Option.some.inj h]; rfl
  | null | bool | number | object => exact nomatch h

/-- Filters whose entries differ in their order are the same. -/
theorem sameFilter_filterOf (h : v.Reordered w) (hv : v.NamesOnce) :
    SameFilter (filterOf v) (filterOf w) := by
  cases h with
  | refl => exact .refl _
  | object h =>
    have hnames := (Json.namesOnce_object_iff.1 hv).nodup
    exact Table.same_ofList_filterMap condition?_key h hnames

/-- Field mappings whose entries differ in their order are the same. -/
private theorem same_ofSteps {entries entries' : List (String × Json)} (h : entries.Perm entries')
    (hnames : (entries.map Prod.fst).Nodup) :
    Table.Same (FieldMapping.ofSteps (mappingSteps (.object entries)))
      (FieldMapping.ofSteps (mappingSteps (.object entries'))) := by
  rw [ofSteps_eq_ofList, ofSteps_eq_ofList, mappingSteps, mappingSteps, List.map_filterMap,
    List.map_filterMap]
  exact Table.same_ofList_filterMap mappingEntry_key h hnames

/-- Field mappings whose entries differ in their order are the same, or there is none on either side. -/
private theorem mappingOf_reordered (h : v.Reordered w) (hv : v.NamesOnce) :
    mappingOf v = none ∧ mappingOf w = none ∨
      ∃ m n, mappingOf v = some m ∧ mappingOf w = some n ∧ m.Same n := by
  cases h with
  -- Equal values leave it open whether there is a mapping at all.
  | refl =>
    cases mappingOf v with
    | none => exact .inl ⟨rfl, rfl⟩
    | some m => exact .inr ⟨m, m, rfl, rfl, Table.same_iff_perm.2 (.refl _)⟩
  | object h =>
    have hnames := (Json.namesOnce_object_iff.1 hv).nodup
    exact .inr ⟨_, _, rfl, rfl, same_ofSteps h hnames⟩

/-- Only objects can differ, and these options take none. -/
private theorem listed_eq_of_reordered (h : v.Reordered w) :
    termsOf v = termsOf w ∧ flagOf v = flagOf w ∧ grammarOf v = grammarOf w := by
  cases h <;> exact ⟨rfl, rfl, rfl⟩

/-! ## Loading -/

/-- Values that differ in the order of entries make drafts that are accepted alike. -/
private theorem sameResult_of_reordered {value value' : ConfigOption → Json}
    (hvalue : ∀ o, (value o).NamesOnce) (h : ∀ o, (value o).Reordered (value' o)) :
    SameResult ((optionsOf value).draft >>= Draft.build) ((optionsOf value').draft >>= Draft.build) := by
  have hforced := sameFilter_filterOf (h .forcedFilter) (hvalue .forcedFilter)
  have hdefault := sameFilter_filterOf (h .defaultFilter) (hvalue .defaultFilter)
  have horder := (listed_eq_of_reordered (h .defaultOrder)).1
  have hcase := (listed_eq_of_reordered (h .caseSensitive)).2.1
  have hgrammar := (listed_eq_of_reordered (h .grammar)).2.2
  -- Without a field mapping both are refused; with one the drafts are the same, option by option.
  rcases mappingOf_reordered (h .fieldMapping) (hvalue .fieldMapping) with
    ⟨hm, hn⟩ | ⟨m, n, hm, hn, hmn⟩
  · simp only [Options.draft, optionsOf, hm, hn]
    exact .refused _ _
  · simp only [Options.draft, optionsOf, hm, hn]
    exact Draft.Same.sameResult_build ⟨hmn, hforced, hdefault, horder, hcase, hgrammar⟩

/-- Documents that differ in the order of members and entries load alike. -/
theorem sameResult_of_rearranged (h : Rearranged members members') (hm : MembersOnce members) :
    SameResult (Config.ofDocument (.object members)) (Config.ofDocument (.object members')) := by
  by_cases hfree : ∀ m ∈ members, ∀ e, ¬ MemberFault m e
  · have hfree' := (forall_not_memberFault_iff_of_rearranged h).1 hfree
    have hm' : MembersOnce members' := membersOnce_of_rearranged h hm
    rw [ofDocument_of_not_memberFault hm.nodup hfree, ofDocument_of_not_memberFault hm'.nodup hfree']
    exact sameResult_of_reordered (namesOnce_given hm) (given_reordered h hm.nodup)
  · -- The first faults may differ, so the errors may.
    have hfaults' := mt (forall_not_memberFault_iff_of_rearranged h).2 hfree
    obtain ⟨e, he⟩ := exists_firstFault hfree
    obtain ⟨e', he'⟩ := exists_firstFault hfaults'
    rw [ofDocument_of_firstFault he, ofDocument_of_firstFault he']
    exact .refused e e'

end Document

namespace Config

/-- What the order of entries decides. Of configurations that are the same, searches fail under one when
    they do under the other, with the same error, and otherwise have one order and trees that are
    alike up to the order of the configured conditions, so that they keep the same records. Documents
    that differ in the order of members, or of the entries in objects among the values, are both
    accepted, as configurations that are the same, or both refused. -/
theorem search_and_ofDocument_up_to_order :
    (∀ a b : Config, a.Same b → ∀ request : Request,
        (∀ e, a.search request = .error e ↔ b.search request = .error e) ∧
        ∀ q q', a.search request = .ok q → b.search request = .ok q' →
          q.order = q'.order ∧ SameTree a b request.filter q.filter q'.filter ∧
          ∀ truth, q.filter.holds truth = q'.filter.holds truth) ∧
      ∀ members members' : List (String × Json), (Json.object members).NamesOnce →
        Document.Rearranged members members' →
        SameResult (ofDocument (.object members)) (ofDocument (.object members')) := by
  refine ⟨fun a b h request => ⟨h.search_eq_error_iff request, fun q q' hq hq' => ?_⟩,
    fun members members' hm h => ?_⟩
  · obtain ⟨hfilter, horder⟩ := search_eq_ok_iff.1 hq
    obtain ⟨hfilter', horder'⟩ := search_eq_ok_iff.1 hq'
    have htree : SameTree a b request.filter q.filter q'.filter := by
      rw [hfilter, hfilter']
      exact h.sameTree_filter request.filter
    rw [h.order_eq, horder', Except.ok.injEq] at horder
    exact ⟨horder.symm, htree, htree.holds_eq⟩
  · exact Document.sameResult_of_rearranged h (Json.namesOnce_object_iff.1 hm)

/-- The members of a document with two keys and two forced conditions. -/
def deskMembers : List (String × Json) :=
  [("field_mapping", .object [("st", .string "status"), ("who", .string "owner")]),
    ("forced_filter", .object [("tenant", .string "acme"), ("archived", .bool false)])]

/-- The same members and entries from the last to the first. -/
def deskMembersReversed : List (String × Json) :=
  [("forced_filter", .object [("archived", .bool false), ("tenant", .string "acme")]),
    ("field_mapping", .object [("who", .string "owner"), ("st", .string "status")])]

theorem membersOnce_deskMembers : Json.MembersOnce deskMembers := by
  refine ⟨by decide, ?_⟩
  rw [deskMembers, List.forall_mem_cons, List.forall_mem_cons]
  refine ⟨.object (by decide) ?_, .object (by decide) ?_, nofun⟩
  · rw [List.forall_mem_cons, List.forall_mem_cons]
    exact ⟨.string _, .string _, nofun⟩
  · rw [List.forall_mem_cons, List.forall_mem_cons]
    exact ⟨.string _, .bool _, nofun⟩

theorem rearranged_deskMembers : Document.Rearranged deskMembers deskMembersReversed := by
  refine ⟨deskMembers.reverse, (List.reverse_perm _).symm, ?_⟩
  exact .cons ⟨rfl, .object (.swap _ _ _)⟩ (.cons ⟨rfl, .object (.swap _ _ _)⟩ .nil)

/-- The statement at a document and its reverse. Both are accepted. The trees of a search differ, and
    keep the same records. -/
theorem search_and_ofDocument_up_to_order_desk :
    (Json.object deskMembers).NamesOnce ∧ Document.Rearranged deskMembers deskMembersReversed ∧
      ∃ a b : Config, ofDocument (.object deskMembers) = .ok a ∧
        ofDocument (.object deskMembersReversed) = .ok b ∧ a.Same b ∧
        ∃ q q', a.search ⟨some "st__eq__open", some "-who"⟩ = .ok q ∧
          b.search ⟨some "st__eq__open", some "-who"⟩ = .ok q' ∧ q.order = q'.order ∧
          q.filter ≠ q'.filter ∧ ∀ truth, q.filter.holds truth = q'.filter.holds truth := by
  obtain ⟨hsearch, hload⟩ := search_and_ofDocument_up_to_order
  have hnames : (Json.object deskMembers).NamesOnce :=
    Json.namesOnce_object_iff.2 membersOnce_deskMembers
  -- Both load, so the results are the same as configurations and not as errors.
  have haccepted : ∀ a b : Config, ofDocument (.object deskMembers) = .ok a →
      ofDocument (.object deskMembersReversed) = .ok b → a.Same b := by
    intro a b ha hb
    have hresult := hload _ _ hnames rearranged_deskMembers
    rw [ha, hb] at hresult
    cases hresult with
    | accepted hsame => exact hsame
  have hsame := haccepted _ _ rfl rfl
  obtain ⟨-, hanswer⟩ := hsearch _ _ hsame ⟨some "st__eq__open", some "-who"⟩
  obtain ⟨horder, -, hholds⟩ := hanswer _ _ rfl rfl
  exact ⟨hnames, rearranged_deskMembers, _, _, rfl, rfl, hsame, _, _, rfl, rfl, horder, by decide,
    hholds⟩

end Config

end FilterQuery
