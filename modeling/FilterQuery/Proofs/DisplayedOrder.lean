import FilterQuery.Config.Setting
import FilterQuery.Proofs.SortOrder

/-!
# Orders shown as text

The terms of an order are shown as fields with a dash in front of the descending ones. Such texts are
read in three places: a sort string has tokens, whose keys are mapped; a default order has terms, which
name their fields themselves; and the check of a configuration looks for terms of dashes alone.

A default order is shown as it was written. With `Config.KeysAreFields` the same is true of the tokens
of a sort string, and all three readers agree on them: a token that resolves to a term also names it, is
shown as it was typed, and passes the check.

## Key results

- `Names.display_eq`: a text that names a term is the text the term is shown as
- `sortTokens_intercalate`: tokens that are joined with commas are the tokens of the joined text
- `Config.Resolves.names`: where keys are fields, tokens name what they resolve to
- `Config.Resolves.not_isBlankTerm`: a token that resolves is not made of dashes alone
- `Config.order_intercalate_display`, `Config.exists_standing_order`: the texts of an order as a sort
  string and as a default order
- `Config.displayed_order_is_read_back`: the three readers and the text in one statement
-/

namespace FilterQuery

/-! ## Terms and tokens -/

/-- A term is shown as the text that names it. -/
theorem Names.display_eq {text : String} {t : SortTerm} (h : Names text t) : t.display = text := by
  rw [← ofTerm_eq_iff.2 h, SortTerm.display_ofTerm]

/-- Terms are shown as the texts that name them. -/
theorem map_display_of_forall₂_names {texts : List String} {terms : List SortTerm}
    (h : List.Forall₂ Names texts terms) : terms.map SortTerm.display = texts := by
  -- The texts and the terms run along one another.
  induction h with
  | nil => rfl
  | cons hname _ ih => rw [List.map_cons, hname.display_eq, ih]

/-- A name is part of the text it is read from. -/
theorem Reads.subset {cs name : List Char} {direction : Direction} (h : Reads cs name direction) :
    name ⊆ cs := by
  cases h with
  | descending => exact List.subset_cons_self _ _
  | ascending => exact List.Subset.refl _

/-- Tokens that are joined with commas are the tokens of the joined text. -/
theorem sortTokens_intercalate (raw : Option String) :
    sortTokens (some (",".intercalate ((sortTokens raw).map String.ofList))) = sortTokens raw := by
  rw [← listItems_eq_sortTokens, ← listItems_eq_sortTokens, Option.getD_some,
    toList_intercalate_comma, listItems_intercalate_listItems]

namespace Config

variable {c : Config} {raw : Option String} {terms : List SortTerm}

/-- Every key stands for the one field of its own name. -/
def KeysAreFields (c : Config) : Prop :=
  ∀ e ∈ c.mapping.entries, e.2 = [e.1]

instance (c : Config) : Decidable c.KeysAreFields :=
  inferInstanceAs (Decidable (∀ e ∈ c.mapping.entries, e.2 = [e.1]))

/-- Where keys are fields, a token that resolves to a term also names it: the mapping has changed
    nothing. -/
theorem Resolves.names (hself : c.KeysAreFields) {token : List Char} {term : SortTerm}
    (h : c.Resolves token term) : Names (String.ofList token) term := by
  cases h with
  | @mk key direction field hreads hkey =>
    -- What the mapping has for the key is the key again.
    have hfield : [field] = [String.ofList key] := hself _ (Table.get?_eq_some_iff.1 hkey)
    obtain rfl : field = String.ofList key := by simpa using hfield
    exact .mk (by rwa [String.toList_ofList])

/-- A token that resolves is not made of dashes alone: there are no dashes in its key. -/
theorem Resolves.not_isBlankTerm {token : List Char} {term : SortTerm} (h : c.Resolves token term) :
    isBlankTerm (String.ofList token) = false := by
  cases h with
  | @mk key direction field hreads hkey =>
    have hsound : SoundEntry (String.ofList key, [field]) :=
      c.sound.entries _ (Table.get?_eq_some_iff.1 hkey)
    obtain ⟨hne, hchars⟩ := isKey_iff.1 hsound.1
    rw [String.toList_ofList] at hne hchars
    -- The first character of the key will do: the token has it, and it is no dash.
    obtain ⟨k, hk⟩ := List.exists_mem_of_ne_nil key hne
    have hdash : k ≠ '-' := by
      intro hdash
      have hkeyChar := hchars k hk
      rw [hdash] at hkeyChar
      exact absurd hkeyChar (by decide)
    rw [isBlankTerm, String.toList_ofList, List.all_eq_false]
    exact ⟨k, hreads.subset hk, by simpa using hdash⟩

/-! ## Orders -/

/-- A default order is shown as it was written. -/
private theorem map_display_standingOrder (h : c.defaultOrder ≠ []) :
    c.standingOrder.map SortTerm.display = c.defaultOrder :=
  map_display_of_forall₂_names ((standingOrder_eq_iff h).1 rfl)

/-- The tokens of a sort string resolve one by one to its order. -/
private theorem forall₂_resolves_of_order (htokens : sortTokens raw ≠ [])
    (h : c.order raw = .ok terms) :
    List.Forall₂ c.Resolves (sortTokens raw) terms := by
  rw [order_of_tokens htokens] at h
  exact (mapM_eq_ok_iff (fun _ _ => sortTerm_eq_ok_iff) _ _).1 h

/-- Where keys are fields, the tokens of a sort string name the terms of its order. -/
theorem forall₂_names_of_order (hself : c.KeysAreFields) (htokens : sortTokens raw ≠ [])
    (h : c.order raw = .ok terms) :
    List.Forall₂ Names ((sortTokens raw).map String.ofList) terms := by
  rw [List.forall₂_map_left_iff]
  exact (forall₂_resolves_of_order htokens h).imp fun _ _ hresolves => hresolves.names hself

/-- Where keys are fields, the order of a sort string is shown as its tokens. -/
theorem map_display_of_order (hself : c.KeysAreFields) (htokens : sortTokens raw ≠ [])
    (h : c.order raw = .ok terms) :
    terms.map SortTerm.display = (sortTokens raw).map String.ofList :=
  map_display_of_forall₂_names (forall₂_names_of_order hself htokens h)

/-- The texts of an order, joined with commas, are a sort string for the same order. -/
theorem order_intercalate_display (hself : c.KeysAreFields) (htokens : sortTokens raw ≠ [])
    (h : c.order raw = .ok terms) :
    c.order (some (",".intercalate (terms.map SortTerm.display))) = .ok terms := by
  -- The texts are the tokens of the sort string, so the joined text has the same tokens.
  have hsame := sortTokens_intercalate raw
  rw [map_display_of_order hself htokens h, order_of_tokens (hsame.symm ▸ htokens), hsame,
    ← order_of_tokens htokens, h]

/-- Tokens that resolve may stand in a default order. -/
private theorem sound_apply_defaultOrder (htokens : sortTokens raw ≠ []) (h : c.order raw = .ok terms) :
    (c.toDraft.apply (.defaultOrder ((sortTokens raw).map String.ofList))).Sound := by
  -- The other options of the draft are those of a configuration.
  refine { c.sound with defaultOrder := fun term hterm => ?_ }
  obtain ⟨token, htoken, rfl⟩ := List.mem_map.1 hterm
  obtain ⟨t, ht⟩ := (exists_order_iff htokens).1 ⟨terms, h⟩ token htoken
  exact ht.not_isBlankTerm

/-- The texts of an order are accepted as a default order, and are the same order there. -/
theorem exists_standing_order (hself : c.KeysAreFields) (htokens : sortTokens raw ≠ [])
    (h : c.order raw = .ok terms) :
    ∃ c', (c.toDraft.apply (.defaultOrder (terms.map SortTerm.display))).build = .ok c' ∧
      c'.order none = .ok terms := by
  rw [map_display_of_order hself htokens h]
  refine ⟨⟨_, sound_apply_defaultOrder htokens h⟩, Draft.build_eq_ok_iff.2 rfl, ?_⟩
  -- The terms of the new default order are read without the mapping, and name the same fields.
  rw [order_of_no_tokens rfl, Except.ok.injEq]
  have hne : (sortTokens raw).map String.ofList ≠ [] := by simpa using htokens
  exact (standingOrder_eq_iff hne).2 (forall₂_names_of_order hself htokens h)

/-- Orders and their texts. A default order that is not empty is shown as it was written, dash for
    dash. Where each key stands for the field of its own name, a sort string with tokens that resolves
    to an order may be replaced by the texts of that order: joined with commas they are a sort string
    for it, and as the default order they are accepted and give it to searches without a sort string. -/
theorem displayed_order_is_read_back (c : Config) :
    (c.defaultOrder ≠ [] → ∃ terms, c.order none = .ok terms ∧
      terms.map SortTerm.display = c.defaultOrder) ∧
    (c.KeysAreFields → ∀ raw terms, sortTokens (some raw) ≠ [] → c.order (some raw) = .ok terms →
      c.order (some (",".intercalate (terms.map SortTerm.display))) = .ok terms ∧
      ∃ c', (c.toDraft.apply (.defaultOrder (terms.map SortTerm.display))).build = .ok c' ∧
        c'.order none = .ok terms) := by
  constructor
  · intro hdefault
    exact ⟨c.standingOrder, order_of_no_tokens rfl, map_display_standingOrder hdefault⟩
  · intro hself raw terms htokens horder
    exact ⟨order_intercalate_display hself htokens horder,
      exists_standing_order hself htokens horder⟩

/-- A mapping of fields to themselves, and a default order with a term of two dashes. -/
def plainDraft : Draft :=
  (Draft.ofMapping (.ofPairs [("status", "status"), ("rank", "rank")])).apply
    (.defaultOrder ["--rank", "status"])

/-- The options with plain keys are sound. -/
def plainConfig : Config := ⟨plainDraft, Draft.firstDefect_eq_none_iff.1 (by decide)⟩

/-- The statement at plain keys. The default order is read as the descending field `-rank` and shown
    with both dashes; the sort string loses its blanks and nothing else. -/
theorem displayed_order_is_read_back_plain :
    (plainConfig.defaultOrder ≠ [] ∧
      plainConfig.order none = .ok [⟨"-rank", .descending⟩, ⟨"status", .ascending⟩] ∧
      ∃ terms, plainConfig.order none = .ok terms ∧
        terms.map SortTerm.display = ["--rank", "status"]) ∧
    plainConfig.KeysAreFields ∧ sortTokens (some " -rank, ,status") ≠ [] ∧
    plainConfig.order (some " -rank, ,status") =
      .ok [⟨"rank", .descending⟩, ⟨"status", .ascending⟩] ∧
    plainConfig.order (some "-rank,status") =
      .ok [⟨"rank", .descending⟩, ⟨"status", .ascending⟩] ∧
    ∃ c', (plainDraft.apply (.defaultOrder ["-rank", "status"])).build = .ok c' ∧
      c'.order none = .ok [⟨"rank", .descending⟩, ⟨"status", .ascending⟩] := by
  have hdefault : plainConfig.defaultOrder ≠ [] := by decide
  have hself : plainConfig.KeysAreFields := by decide
  have htokens : sortTokens (some " -rank, ,status") ≠ [] := by decide
  have horder : plainConfig.order (some " -rank, ,status") =
      .ok [⟨"rank", .descending⟩, ⟨"status", .ascending⟩] := rfl
  -- The first part needs no mapping; the second rests on the keys being fields.
  obtain ⟨hstanding, hback⟩ := displayed_order_is_read_back plainConfig
  obtain ⟨hjoined, hset⟩ := hback hself _ _ htokens horder
  exact ⟨⟨hdefault, rfl, hstanding hdefault⟩, hself, htokens, horder, hjoined, hset⟩

end Config

end FilterQuery
