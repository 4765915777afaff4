import FilterQuery.Proofs.ConfigEquality
import FilterQuery.Proofs.FirstFault
import FilterQuery.Proofs.WellFormed

/-!
# The order of a search

A sort string is resolved as a whole: every token of it names one field, and the terms come in the order
of the tokens, or the first token that does not is reported and there is no order at all. A sort string
without tokens asks for nothing, like one that is absent, and then the configured terms apply as they
are written.

`Config.Ordered` states this as a relation between a sort string and the result, without the functions
that read it. The three steps are relations too: `Reads` takes a dash off a text, `Config.Resolves` maps
a token, `Config.Rejects` says what is wrong with one.

## Key results

- `reads_iff`: a text is read in one way only
- `Config.sortTerm_eq_ok_iff`, `Config.sortTerm_eq_error_iff`: what becomes of one token
- `Config.order_eq_iff_ordered`: what becomes of a sort string
- `Config.Ordered.ne_nil`, `Config.Ordered.field_ne_empty`: an order is never empty, nor a field in it
- `Config.order_all_or_nothing`: the resolution of sort strings in one statement
-/

namespace FilterQuery

/-! ## Reading terms -/

/-- A text is read as a name and a direction: one dash in front is taken off and means descending. -/
inductive Reads : List Char → List Char → Direction → Prop where
  | descending (name : List Char) : Reads ('-' :: name) name .descending
  | ascending {name : List Char} (h : name.head? ≠ some '-') : Reads name name .ascending

/-- Every text is read, by taking off a dash in front if there is one. -/
private theorem reads_splitDash (cs : List Char) : Reads cs (splitDash cs).1 (splitDash cs).2 := by
  unfold splitDash
  split
  · exact .descending _
  · rename_i hdash
    apply Reads.ascending
    intro hhead
    -- A dash in front would have been taken off in the first case.
    cases cs with
    | nil => simp at hhead
    | cons c cs =>
      rw [List.head?_cons, Option.some.injEq] at hhead
      exact hdash cs (by rw [hhead])

/-- A text is read in one way only. -/
theorem reads_iff {cs name : List Char} {direction : Direction} :
    Reads cs name direction ↔ splitDash cs = (name, direction) := by
  constructor
  · intro h
    cases h with
    | descending => rfl
    | ascending hhead =>
      -- Without a dash in front nothing is taken off.
      unfold splitDash
      split
      · simp at hhead
      · rfl
  · intro h
    -- Taking off the dash is one way to read, and it is the given one.
    have hreads := reads_splitDash cs
    rwa [h] at hreads

/-- A term names a field directly. -/
inductive Names : String → SortTerm → Prop where
  | mk {term : String} {name : List Char} {direction : Direction}
    (h : Reads term.toList name direction) : Names term ⟨String.ofList name, direction⟩

/-- The term of a text is the one that the text names. -/
theorem ofTerm_eq_iff {term : String} {t : SortTerm} : SortTerm.ofTerm term = t ↔ Names term t := by
  constructor
  · intro h
    subst h
    exact .mk (reads_splitDash term.toList)
  · intro h
    cases h with
    | mk hreads => rw [SortTerm.ofTerm, reads_iff.1 hreads]

/-- A term that is not made of dashes alone names a field that is not empty: only one dash is taken
    off. -/
theorem Names.field_ne_empty {term : String} {t : SortTerm} (h : Names term t)
    (hterm : isBlankTerm term = false) : t.field ≠ "" := by
  intro hempty
  cases h with
  | @mk name direction hreads =>
    -- The name is empty for the empty term and for a lone dash, both of which are blank.
    have hname : name = [] := by simpa using hempty
    subst hname
    have hblank : isBlankTerm term = true := by
      unfold isBlankTerm
      generalize term.toList = cs at hreads
      cases hreads <;> rfl
    rw [hblank] at hterm
    exact nomatch hterm

/-! ## Tokens -/

/-- The tokens of a sort string: the pieces between commas, trimmed, without the blank ones. An absent
    sort string has none. -/
def sortTokens : Option String → List (List Char)
  | none => []
  | some raw => ((raw.toList.splitOn ',').map Text.trim).filter (· ≠ [])

theorem listItems_eq_sortTokens (raw : Option String) :
    listItems (raw.getD "").toList = sortTokens raw := by
  cases raw with
  | none => rfl
  | some raw => rw [Option.getD_some, listItems, Text.pieces_eq_splitOn, sortTokens]

namespace Config

variable {c : Config} {raw : Option String}

/-- A token resolves to a term: its key, without the dash, stands for one field. -/
inductive Resolves (c : Config) (token : List Char) : SortTerm → Prop where
  | mk {key : List Char} {direction : Direction} {field : String} (h : Reads token key direction)
    (hkey : c.mapping.get? (String.ofList key) = some [field]) : Resolves c token ⟨field, direction⟩

/-- A token is rejected: its key, without the dash, stands for no field or for several. -/
inductive Rejects (c : Config) (token : List Char) : SortError → Prop where
  | unmapped {key : List Char} {direction : Direction} (h : Reads token key direction)
    (hkey : c.mapping.get? (String.ofList key) = none) :
    Rejects c token ⟨String.ofList key, .unmapped⟩
  | ambiguous {key : List Char} {direction : Direction} {fields : List String}
    (h : Reads token key direction) (hkey : c.mapping.get? (String.ofList key) = some fields)
    (hfields : 2 ≤ fields.length) :
    Rejects c token ⟨String.ofList key, .ambiguous fields.length⟩

/-- A key is fit for sorting when it stands for one field. -/
private theorem sortField_eq_ok_iff {key : List Char} {field : String} :
    c.sortField key = .ok field ↔ c.mapping.get? (String.ofList key) = some [field] := by
  unfold sortField
  split
  · rename_i f hkey
    simp [hkey]
  · rename_i fields hfields hkey
    simp only [hkey, reduceCtorEq, Option.some.injEq, false_iff]
    exact fun h => hfields field (by rw [h])
  · rename_i hkey
    simp [hkey]

/-- What makes a key unfit for sorting. That it may stand for no field at all is ruled out by the
    soundness of the mapping. -/
private theorem sortField_eq_error_iff {key : List Char} {e : SortError} :
    c.sortField key = .error e ↔
      (c.mapping.get? (String.ofList key) = none ∧ e = ⟨String.ofList key, .unmapped⟩) ∨
        ∃ fields, c.mapping.get? (String.ofList key) = some fields ∧ 2 ≤ fields.length ∧
          e = ⟨String.ofList key, .ambiguous fields.length⟩ := by
  unfold sortField
  split
  · rename_i f hkey
    simp [hkey]
  · rename_i fields hfields hkey
    have hpos : 0 < fields.length := List.length_pos_iff.2 (fields_ne_nil hkey)
    -- A single field is the case before.
    have hone : fields.length ≠ 1 := by
      intro hlength
      obtain ⟨f, hf⟩ := List.length_eq_one_iff.1 hlength
      exact hfields f hf
    have htwo : 2 ≤ fields.length := by omega
    simp [hkey, htwo, eq_comm]
  · rename_i hkey
    simp [hkey, eq_comm]

/-- A token is resolved by its key, and keeps its direction. -/
private theorem sortTerm_eq {token key : List Char} {direction : Direction}
    (h : Reads token key direction) :
    c.sortTerm token = (c.sortField key).map fun field => ⟨field, direction⟩ := by
  simp only [sortTerm, reads_iff.1 h]
  cases c.sortField key <;> rfl

/-- The terms of tokens are those that they resolve to. -/
theorem sortTerm_eq_ok_iff {token : List Char} {term : SortTerm} :
    c.sortTerm token = .ok term ↔ c.Resolves token term := by
  have hreads := reads_splitDash token
  constructor
  · intro h
    rw [sortTerm_eq hreads] at h
    cases hfield : c.sortField (splitDash token).1 with
    | error e =>
      rw [hfield] at h
      exact nomatch h
    | ok field =>
      rw [hfield] at h
      obtain rfl : _ = term := Except.ok.inj h
      exact .mk hreads (sortField_eq_ok_iff.1 hfield)
  · intro h
    cases h with
    | mk hread hkey => rw [sortTerm_eq hread, sortField_eq_ok_iff.2 hkey, Except.map]

/-- The errors of tokens are those that they are rejected with. -/
theorem sortTerm_eq_error_iff {token : List Char} {e : SortError} :
    c.sortTerm token = .error e ↔ c.Rejects token e := by
  have hreads := reads_splitDash token
  constructor
  · intro h
    -- The direction has no part in the error, which is the one of the key.
    have herror : c.sortField (splitDash token).1 = .error e := by
      rw [sortTerm_eq hreads] at h
      cases hfield : c.sortField (splitDash token).1 with
      | error e' =>
        rw [hfield] at h
        rw [Except.error.inj h]
      | ok field =>
        rw [hfield] at h
        exact nomatch h
    rcases sortField_eq_error_iff.1 herror with ⟨hkey, rfl⟩ | ⟨fields, hkey, hfields, rfl⟩
    · exact .unmapped hreads hkey
    · exact .ambiguous hreads hkey hfields
  · intro h
    cases h with
    | unmapped hread hkey =>
      rw [sortTerm_eq hread, sortField_eq_error_iff.2 (.inl ⟨hkey, rfl⟩), Except.map]
    | ambiguous hread hkey hfields =>
      rw [sortTerm_eq hread, sortField_eq_error_iff.2 (.inr ⟨_, hkey, hfields, rfl⟩), Except.map]

/-- A token that resolves names a field: no key stands for the empty name. -/
theorem Resolves.field_ne_empty {token : List Char} {term : SortTerm} (h : c.Resolves token term) :
    term.field ≠ "" := by
  cases h with
  | @mk key direction field _ hkey =>
    -- A sound mapping has no empty field.
    have hentry : ("" : String) ∉ [field] :=
      (c.sound.entries (_, [field]) (Table.get?_eq_some_iff.1 hkey)).2.2
    intro hempty
    exact hentry (by simpa using hempty.symm)

/-! ## Sort strings -/

/-- What becomes of a sort string. -/
inductive Ordered (c : Config) (raw : Option String) :
    Except SortError (List SortTerm) → Prop where
  /-- Nothing is asked for, and nothing is configured. -/
  | fallback (htokens : sortTokens raw = []) (hdefault : c.defaultOrder = []) :
    Ordered c raw (.ok [⟨"pk", .ascending⟩])
  /-- Nothing is asked for: the configured terms name their fields. -/
  | standing {terms : List SortTerm} (htokens : sortTokens raw = []) (hdefault : c.defaultOrder ≠ [])
    (hterms : List.Forall₂ Names c.defaultOrder terms) : Ordered c raw (.ok terms)
  /-- Every token resolves. -/
  | resolved {terms : List SortTerm} (htokens : sortTokens raw ≠ [])
    (hterms : List.Forall₂ c.Resolves (sortTokens raw) terms) : Ordered c raw (.ok terms)
  /-- Some token is rejected; the first one counts. -/
  | rejected {e : SortError} (h : FirstFault c.Rejects (sortTokens raw) e) :
    Ordered c raw (.error e)

theorem order_of_no_tokens (h : sortTokens raw = []) : c.order raw = .ok c.standingOrder := by
  rw [order, listItems_eq_sortTokens, h]

/-- Tokens are resolved one by one, up to the first that cannot be. -/
theorem order_of_tokens (h : sortTokens raw ≠ []) :
    c.order raw = (sortTokens raw).mapM c.sortTerm := by
  rw [order, listItems_eq_sortTokens]
  split
  · rename_i hnil
    exact absurd hnil h
  · rfl

/-- The configured terms name the fields of the standing order, one by one. -/
theorem standingOrder_eq_iff {terms : List SortTerm} (h : c.defaultOrder ≠ []) :
    c.standingOrder = terms ↔ List.Forall₂ Names c.defaultOrder terms := by
  have hnames : ∀ term t, SortTerm.ofTerm term = t ↔ Names term t := fun _ _ => ofTerm_eq_iff
  rw [standingOrder, if_neg h, ← List.forall₂_eq_eq_eq, List.forall₂_map_left_iff]
  simp only [hnames]

/-- The result of a sort string is the one that the relation gives it. -/
theorem order_eq_iff_ordered {result : Except SortError (List SortTerm)} :
    c.order raw = result ↔ c.Ordered raw result := by
  -- With and without tokens there are two results each, and the conditions of the relation tell
  -- them apart.
  by_cases htokens : sortTokens raw = []
  · rw [order_of_no_tokens htokens]
    constructor
    · intro h
      subst h
      by_cases hdefault : c.defaultOrder = []
      · rw [standingOrder, if_pos hdefault]
        exact .fallback htokens hdefault
      · exact .standing htokens hdefault ((standingOrder_eq_iff hdefault).1 rfl)
    · intro h
      cases h with
      | fallback _ hdefault => rw [standingOrder, if_pos hdefault, fallbackTerm]
      | standing _ hdefault hterms => rw [(standingOrder_eq_iff hdefault).2 hterms]
      | resolved hne => exact absurd htokens hne
      | rejected h =>
        -- Without tokens none is at fault.
        rw [htokens] at h
        cases h
  · rw [order_of_tokens htokens]
    constructor
    · intro h
      cases result with
      | ok terms => exact .resolved htokens ((mapM_eq_ok_iff (fun _ _ => sortTerm_eq_ok_iff) _ _).1 h)
      | error e =>
        exact .rejected ((mapM_eq_error_iff (fun _ _ => sortTerm_eq_error_iff) _ _).1 h)
    · intro h
      cases h with
      | fallback hnil => exact absurd hnil htokens
      | standing hnil => exact absurd hnil htokens
      | resolved _ hterms => exact (mapM_eq_ok_iff (fun _ _ => sortTerm_eq_ok_iff) _ _).2 hterms
      | rejected h => exact (mapM_eq_error_iff (fun _ _ => sortTerm_eq_error_iff) _ _).2 h

/-! ## Orders are not empty -/

/-- There is always something to sort by. -/
theorem Ordered.ne_nil {terms : List SortTerm} (h : c.Ordered raw (.ok terms)) : terms ≠ [] := by
  intro hnil
  subst hnil
  -- There are as many terms as configured terms or tokens, and the fallback is one term.
  cases h with
  | standing _ hdefault hterms => exact hdefault (List.forall₂_nil_right_iff.1 hterms)
  | resolved htokens hterms => exact htokens (List.forall₂_nil_right_iff.1 hterms)

/-- Every term of an order names a field. The soundness of the configuration gives this for mapped
    fields and for configured terms alike. -/
theorem Ordered.field_ne_empty {terms : List SortTerm} (h : c.Ordered raw (.ok terms)) :
    ∀ term ∈ terms, term.field ≠ "" := by
  cases h with
  | fallback => decide
  | standing _ _ hterms =>
    refine forall_mem_of_forall₂ hterms fun term hterm t hnames => ?_
    exact hnames.field_ne_empty (c.sound.defaultOrder term hterm)
  | resolved _ hterms =>
    exact forall_mem_of_forall₂ hterms fun token _ term hresolves => hresolves.field_ne_empty

/-- A sort string has an order when every token of it resolves. -/
theorem exists_order_iff (h : sortTokens raw ≠ []) :
    (∃ terms, c.order raw = .ok terms) ↔
      ∀ token ∈ sortTokens raw, ∃ term, c.Resolves token term := by
  rw [order_of_tokens h, exists_mapM_eq_ok_iff]
  simp only [sortTerm_eq_ok_iff]

/-- Sort strings are resolved as a whole. The result is the one of the relation: the standing order
    without tokens, else one term for each token, or the error of the first token that is rejected; so
    there is an order exactly when every token resolves. An order is not empty, and neither are its
    fields. A search fails when the order does, with the same error, whatever the filter string is. -/
theorem order_all_or_nothing (c : Config) (raw : Option String) :
    (∀ result, c.order raw = result ↔ c.Ordered raw result) ∧
      (sortTokens raw ≠ [] → ((∃ terms, c.order raw = .ok terms) ↔
        ∀ token ∈ sortTokens raw, ∃ term, c.Resolves token term)) ∧
      (∀ terms, c.order raw = .ok terms → terms ≠ [] ∧ ∀ term ∈ terms, term.field ≠ "") ∧
      ∀ (filter : Option String) (e : SortError),
        c.search ⟨filter, raw⟩ = .error e ↔ c.order raw = .error e := by
  refine ⟨fun result => order_eq_iff_ordered, exists_order_iff, fun terms hterms => ?_,
    fun filter e => search_eq_error_iff⟩
  have hordered : c.Ordered raw (.ok terms) := order_eq_iff_ordered.1 hterms
  exact ⟨hordered.ne_nil, hordered.field_ne_empty⟩

/-- The statement at tickets: blanks between commas are no tokens, and a key with two fields spoils the
    terms before it. -/
theorem order_all_or_nothing_tickets :
    (sortTokens (some "-st, ,st") ≠ [] ∧
        ((∃ terms, ticketConfig.order (some "-st, ,st") = .ok terms) ↔
          ∀ token ∈ sortTokens (some "-st, ,st"), ∃ term, ticketConfig.Resolves token term)) ∧
      (ticketConfig.order (some "-st, ,st") =
          .ok [⟨"status", .descending⟩, ⟨"status", .ascending⟩] ∧
        ∀ term ∈ [⟨"status", .descending⟩, (⟨"status", .ascending⟩ : SortTerm)], term.field ≠ "") ∧
      ticketConfig.Ordered (some "st,-q,zz") (.error ⟨"q", .ambiguous 2⟩) ∧
      ticketConfig.search ⟨some "st__eq__a", some "st,-q,zz"⟩ = .error ⟨"q", .ambiguous 2⟩ := by
  have hne : sortTokens (some "-st, ,st") ≠ [] := by decide
  have horder : ticketConfig.order (some "-st, ,st") =
      .ok [⟨"status", .descending⟩, ⟨"status", .ascending⟩] := rfl
  have herror : ticketConfig.order (some "st,-q,zz") = .error ⟨"q", .ambiguous 2⟩ := rfl
  obtain ⟨-, hexists, hfields, -⟩ := order_all_or_nothing ticketConfig (some "-st, ,st")
  obtain ⟨hordered, -, -, hsearch⟩ := order_all_or_nothing ticketConfig (some "st,-q,zz")
  exact ⟨⟨hne, hexists hne⟩, ⟨horder, (hfields _ horder).2⟩, (hordered _).1 herror,
    (hsearch _ _).2 herror⟩

end Config

end FilterQuery
