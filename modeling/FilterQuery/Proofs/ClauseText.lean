import FilterQuery.Grammar

/-!
# The text of a clause

A grammar reads the value of a clause from a part of its token, so a value holds no character that
the token does not hold. In particular no value holds the delimiter of the grammar.

## Key results

- `Suffix.exists_readValue_of_classify`, `Colon.exists_readValue_of_classify`: the value is read
  from a part of the token
- `Grammar.usable_of_classify`: the value of a token without delimiter, unless empty, is usable
- `Grammar.value_eq_list_iff_of_classify`: lists come with the list operators only
-/

namespace FilterQuery

/-! ## Parts of a text -/

private theorem Text.infix_of_after? {p s r : List Char} (h : after? p s = some r) : r <:+: s := by
  obtain rfl := after?_eq_some_iff.1 h
  exact (List.suffix_append p r).isInfix

private theorem Text.infix_of_between? {p s r : List Char} {c : Char} (h : between? p c s = some r) :
    r <:+: s := by
  obtain rfl := between?_eq_some_iff.1 h
  exact ⟨p, [c], by simp⟩

/-- A piece between separators holds characters of the text only. -/
private theorem Text.subset_of_mem_pieces {d : Char} {s p : List Char} (h : p ∈ pieces d s) : p ⊆ s := by
  -- Either the text is one piece, or it is a piece, a separator and the rest.
  induction s using pieces_induction d with
  | piece q hq =>
    rw [pieces_of_notMem hq, List.mem_singleton] at h
    exact h ▸ List.Subset.refl q
  | join q s hq ih =>
    rw [pieces_append_cons_of_notMem hq, List.mem_cons] at h
    rcases h with rfl | h
    · exact List.subset_append_left p (d :: s)
    · exact List.subset_append_of_subset_right q (List.subset_cons_of_subset d (ih h))

/-- The items of a list hold characters of its text only. -/
theorem subset_of_mem_listItems {s x : List Char} (h : x ∈ listItems s) : x ⊆ s := by
  -- An item is a piece that was trimmed.
  obtain ⟨p, hp, rfl⟩ := List.mem_map.1 (List.mem_filter.1 h).1
  exact fun c hc => Text.subset_of_mem_pieces hp (Text.mem_of_mem_trim hc)

/-! ## Values -/

/-- A value that a store can compare with: no text of it is empty or holds the character `d`, and
    a list has items, which are trimmed and free of commas. -/
def Value.Usable (d : Char) : Value → Prop
  | .single text => text ≠ "" ∧ d ∉ text.toList
  | .list items => items ≠ [] ∧ ∀ item ∈ items,
      item ≠ "" ∧ Text.trim item.toList = item.toList ∧ ',' ∉ item.toList ∧ d ∉ item.toList

namespace Operator

/-- An operator reads a list exactly when it takes one. -/
theorem readValue_eq_list_iff (o : Operator) (s : List Char) :
    (∃ items, o.readValue s = .list items) ↔ o.takesList := by
  unfold readValue
  split <;> simp_all

/-- A value that is not empty and is read from a text without `d` is usable. -/
private theorem usable_readValue {o : Operator} {s : List Char} {d : Char} (hd : d ∉ s)
    (hne : (o.readValue s).isEmpty = false) : (o.readValue s).Usable d := by
  unfold readValue at hne ⊢
  split
  · rename_i hlist
    rw [if_pos hlist] at hne
    -- A list that is not empty has items, and trimming has left each of them well-formed.
    refine ⟨by simpa [Value.isEmpty] using hne, fun item hitem => ?_⟩
    obtain ⟨x, hx, rfl⟩ := List.mem_map.1 hitem
    obtain ⟨hnil, htrim, hcomma⟩ := wellFormed_of_mem_listItems hx
    rw [String.toList_ofList]
    refine ⟨?_, htrim, hcomma, fun h => hd (subset_of_mem_listItems hx h)⟩
    intro he
    exact hnil (by simpa using congrArg String.toList he)
  · rename_i hlist
    rw [if_neg hlist] at hne
    exact ⟨by simpa [Value.isEmpty] using hne, by rwa [String.toList_ofList]⟩

end Operator

/-! ## The suffix grammar -/

namespace Suffix

/-- The payload behind a marker is a part of the text that follows the marker. -/
private theorem infix_of_payload? {o : Operator} {s v : List Char} (h : payload? o s = some v) :
    v <:+: s := by
  unfold payload? at h
  split at h
  · exact Text.infix_of_between? h
  · obtain rfl := Option.some.inj h
    exact List.infix_refl s

/-- The value of a clause is read from a part of its token. -/
theorem exists_readValue_of_classify {token : List Char} {clause : Clause}
    (h : classify token = some clause) :
    ∃ v, v <:+: token ∧ clause.value = clause.operator.readValue v := by
  obtain ⟨o, -, ho⟩ := List.exists_of_findSome?_eq_some h
  obtain ⟨⟨k, v⟩, hsplit, rfl⟩ := Option.map_eq_some_iff.1 ho
  obtain ⟨-, r, rfl, hr⟩ := cuts_of_split? hsplit
  -- The payload is a part of what follows the marker, and that is the end of the token.
  have hrest : r <:+: k ++ (marker o ++ r) := ⟨k ++ marker o, [], by simp⟩
  exact ⟨v, (infix_of_payload? hr).trans hrest, rfl⟩

end Suffix

/-! ## The colon grammar -/

namespace Colon

/-- What an outer form holds is a part of the text that has the form. -/
private theorem infix_of_form? {o : Operator} {s v : List Char} (h : form? o s = some v) : v <:+: s := by
  cases o <;> simp only [form?, reduceCtorEq] at h
  case lt | le | gt | ge => exact Text.infix_of_after? h
  case exact | isIn | notIn => exact Text.infix_of_between? h

/-- The text that is left to be read as a value is a part of the text of the token. -/
private theorem infix_operatorAndText (s : List Char) : (operatorAndText s).2 <:+: s := by
  unfold operatorAndText
  cases hf : forms.findSome? fun o => (form? o s).map (o, ·) with
  -- Without a form the whole text is taken.
  | none => exact List.infix_refl s
  | some ov =>
    obtain ⟨o, -, ho⟩ := List.exists_of_findSome?_eq_some hf
    obtain ⟨v, hv, rfl⟩ := Option.map_eq_some_iff.1 ho
    exact infix_of_form? hv

/-- The value of a clause is read from a part of its token. -/
theorem exists_readValue_of_classify {token : List Char} {clause : Clause}
    (h : classify token = some clause) :
    ∃ v, v <:+: token ∧ clause.value = clause.operator.readValue v := by
  unfold classify at h
  split at h
  · exact nomatch h
  · rename_i k s hcut
    split at h
    · obtain rfl := Option.some.inj h
      obtain ⟨rfl, -⟩ := Text.cut?_eq_some_iff.1 hcut
      -- The text behind the first colon is the end of the token.
      have hrest : s <:+: k ++ ':' :: s := ⟨k ++ [':'], [], by simp⟩
      exact ⟨(operatorAndText s).2, (infix_operatorAndText s).trans hrest, rfl⟩
    · exact nomatch h

end Colon

/-! ## Both grammars -/

namespace Grammar

variable {g : Grammar} {token : List Char} {clause : Clause}

theorem exists_readValue_of_classify (h : g.classify token = some clause) :
    ∃ v, v <:+: token ∧ clause.value = clause.operator.readValue v := by
  cases g with
  | suffix => exact Suffix.exists_readValue_of_classify h
  | colon => exact Colon.exists_readValue_of_classify h

/-- A clause has a list exactly when its operator takes one. -/
theorem value_eq_list_iff_of_classify (h : g.classify token = some clause) :
    (∃ items, clause.value = .list items) ↔ clause.operator.takesList := by
  obtain ⟨v, -, hv⟩ := exists_readValue_of_classify h
  rw [hv, Operator.readValue_eq_list_iff]

/-- The value of a token without the character `d` is usable unless it is empty. -/
theorem usable_of_classify {d : Char} (h : g.classify token = some clause) (hd : d ∉ token)
    (hvalue : clause.value.isEmpty = false) : clause.value.Usable d := by
  obtain ⟨v, hv, hread⟩ := exists_readValue_of_classify h
  rw [hread] at hvalue ⊢
  exact Operator.usable_readValue (fun hm => hd (hv.subset hm)) hvalue

end Grammar

end FilterQuery
