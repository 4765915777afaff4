import FilterQuery.Proofs.ClauseText
import FilterQuery.Proofs.FilterTree
import FilterQuery.Proofs.Markers
import FilterQuery.Proofs.SuffixLanguage
import Mathlib.Data.List.Basic

/-!
# The canonical text of a clause

A clause can be written in many ways: a list may have blank items and spaces around its items. Its
canonical text, `Grammar.write`, has none of these. Rewriting the clauses of any filter string in
their canonical texts gives a filter string with the same clauses. Nothing has to be known of the
clauses, however odd the markers in their keys and the brackets and quotes in their values are,
because they were read: a token with a single value is its own canonical text, and in a token with
a list the rewriting changes what stands between the brackets only.

## Key results

- `Operator.readValue_inner`: what was read as a value is read as it again
- `Suffix.exists_cut_bracketed_iff`: whether a key fits in front of a bracket does not depend on what is
  in the brackets
- `Suffix.classify_write`, `Colon.classify_write`: a canonical text is read as its clause
- `Grammar.tokenize_write`: rewriting a filter string in canonical texts keeps its clauses
-/

namespace FilterQuery

/-! ## Values -/

/-- The text of a value: a single text as it is, the items of a list with commas between them. -/
def Value.inner : Value → String
  | .single text => text
  | .list items => ",".intercalate items

/-- What was read as a value is read as the same value again. -/
theorem Operator.readValue_inner (o : Operator) (s : List Char) :
    o.readValue (o.readValue s).inner.toList = o.readValue s := by
  unfold readValue
  by_cases ho : o.takesList
  · simp only [ho, if_true, Value.inner, toList_intercalate_comma, listItems_intercalate_listItems]
  · simp [ho, Value.inner]

/-- The text of a usable value is free of the character that its texts are free of. -/
theorem Value.Usable.notMem_inner {d : Char} {v : Value} (h : v.Usable d) (hd : d ≠ ',') :
    d ∉ v.inner.toList := by
  cases v with
  | single text => exact h.2
  | list items =>
    rw [inner, String.toList_intercalate]
    refine Text.notMem_intercalate (by simpa using hd) fun x hx => ?_
    obtain ⟨item, hitem, rfl⟩ := List.mem_map.1 hx
    exact (h.2 item hitem).2.2.2

/-! ## The suffix grammar -/

namespace Suffix

/-- The canonical text of a clause: key, marker and value, a list between brackets. -/
def write (c : Clause) : String :=
  c.key ++ "__" ++ c.operator.code ++ "__" ++
    if c.operator.takesList then "[" ++ c.value.inner ++ "]" else c.value.inner

theorem toList_write (c : Clause) :
    (write c).toList = c.key.toList ++ (marker c.operator ++
      if c.operator.takesList then '[' :: (c.value.inner.toList ++ [']']) else c.value.inner.toList) := by
  unfold write
  split <;> simp [marker]

/-- Whether a key fits in a token in front of a bracket is decided by what precedes the bracket. -/
theorem exists_cut_bracketed_iff {o : Operator} {u s k : List Char} (hu : ∀ c ∈ u, isKeyChar c) :
    (∃ v, Cuts o (u ++ '[' :: (s ++ [']'])) k v) ↔
      isKey k ∧ ∃ t, u = k ++ (marker o ++ t) ∧ (o.takesList → t = []) := by
  have hbracket : isKeyChar '[' = false := by decide
  constructor
  · intro h
    obtain ⟨v, hk, r, htoken, hv⟩ := h
    rw [← List.append_assoc] at htoken
    have hkm : isKey (k ++ marker o) := isKey_append_of_subset_marker hk (List.Subset.refl _)
    refine ⟨hk, ?_⟩
    -- Key and marker hold no bracket, so they end before it.
    rcases List.append_eq_append_iff.1 htoken with ⟨a, ha, hr⟩ | ⟨t, ht, hr⟩
    · cases a with
      | nil => exact ⟨[], by simpa using ha.symm, fun _ => rfl⟩
      | cons c a =>
        -- The bracket would be a character of key and marker.
        rw [List.cons_append, List.cons.injEq] at hr
        exact absurd ((isKey_iff.1 hkm).2 '[' (by simp [ha, ← hr.1])) (by simp [hbracket])
    · refine ⟨t, by rw [ht, List.append_assoc], fun ho => ?_⟩
      rw [payload?_eq_some_iff, if_pos ho] at hv
      cases t with
      | nil => rfl
      | cons c t =>
        -- The bracket that the list needs would be one of the key characters in front of it.
        rw [hv, List.cons_append, List.cons.injEq] at hr
        exact absurd (hu '[' (by simp [ht, ← hr.1])) (by simp [hbracket])
  · intro h
    obtain ⟨hk, t, hu, ht⟩ := h
    by_cases ho : o.takesList
    · refine ⟨s, hk, '[' :: (s ++ [']']), by simp [hu, ht ho], ?_⟩
      rw [payload?_eq_some_iff, if_pos ho]
    · refine ⟨t ++ '[' :: (s ++ [']']), hk, t ++ '[' :: (s ++ [']']), by simp [hu], ?_⟩
      rw [payload?_eq_some_iff, if_neg ho]

/-- A token with a single value is the canonical text of its clause. -/
private theorem toList_write_of_single {token : List Char} {clause : Clause}
    (h : classify token = some clause) (ho : clause.operator.takesList = false) :
    (write clause).toList = token := by
  obtain ⟨-, v, hsplit, hvalue⟩ := classify_eq_some_iff.1 h
  obtain ⟨-, r, htoken, hr⟩ := cuts_of_split? hsplit
  -- Without a list the payload is all that follows the marker.
  rw [payload?_eq_some_iff, ho, if_neg Bool.false_ne_true] at hr
  rw [toList_write, ho, if_neg Bool.false_ne_true, htoken, hr, hvalue]
  simp [Operator.readValue, ho, Value.inner]

/-- The canonical text of a clause with a list is read as the clause. -/
private theorem classify_write_of_list {token : List Char} {clause : Clause}
    (h : classify token = some clause) (ho : clause.operator.takesList) :
    classify (write clause).toList = some clause := by
  obtain ⟨hearlier, v, hsplit, hvalue⟩ := classify_eq_some_iff.1 h
  obtain ⟨⟨hkey, r, htoken, hr⟩, hmin⟩ := split?_eq_some_iff.1 hsplit
  rw [payload?_eq_some_iff, if_pos ho] at hr
  have hprefix : ∀ c ∈ clause.key.toList ++ marker clause.operator, isKeyChar c :=
    (isKey_iff.1 (isKey_append_of_subset_marker hkey (List.Subset.refl _))).2
  -- The canonical text differs from the token between the brackets only, so the same keys fit.
  have hcuts : ∀ p k w, Cuts p (write clause).toList k w → ∃ w, Cuts p token k w := by
    intro p k w hcut
    rw [toList_write, if_pos ho, ← List.append_assoc] at hcut
    rw [htoken, hr, ← List.append_assoc, exists_cut_bracketed_iff hprefix]
    exact (exists_cut_bracketed_iff hprefix).1 ⟨w, hcut⟩
  have hpayload : payload? clause.operator ('[' :: (clause.value.inner.toList ++ [']'])) =
      some clause.value.inner.toList := by
    rw [payload?_eq_some_iff, if_pos ho]
  have hsplit' : split? clause.operator (write clause).toList =
      some (clause.key.toList, clause.value.inner.toList) := by
    refine split?_eq_some_iff.2
      ⟨⟨hkey, _, by rw [toList_write, if_pos ho], hpayload⟩, fun k w hcut => ?_⟩
    obtain ⟨w', hcut'⟩ := hcuts _ k w hcut
    exact hmin k w' hcut'
  refine classify_eq_some_iff.2 ⟨fun p hp k w hcut => ?_, _, hsplit', ?_⟩
  · -- An operator that is tried earlier would cut the token as well.
    obtain ⟨w', hcut'⟩ := hcuts p k w hcut
    exact hearlier p hp k w' hcut'
  · rw [hvalue, Operator.readValue_inner]

/-- A canonical text is read as its clause, if the clause was read from a token. -/
theorem classify_write {token : List Char} {clause : Clause} (h : classify token = some clause) :
    classify (write clause).toList = some clause := by
  cases ho : clause.operator.takesList with
  | true => exact classify_write_of_list h ho
  | false => rw [toList_write_of_single h ho, h]

/-- A canonical text holds no bar, if its value holds none. -/
theorem delimiter_notMem_write {clause : Clause} (hkey : isKey clause.key.toList)
    (hvalue : clause.value.Usable '|') : '|' ∉ (write clause).toList := by
  have hinner := hvalue.notMem_inner (by decide)
  rw [toList_write, List.mem_append, List.mem_append, not_or, not_or]
  -- Key, marker and value are free of the bar, and so are the brackets.
  refine ⟨Grammar.suffix.delimiter_notMem_of_isKey hkey, delimiter_notMem_marker _, ?_⟩
  split <;> simp [hinner]

end Suffix

/-! ## The colon grammar -/

namespace Colon

/-- What stands in front of a text and behind it in the outer form that names an operator. -/
def enclosure : Operator → String × String
  | .contains => ("", "")
  | .exact => ("\"", "\"")
  | .isIn => ("[", "]")
  | .notIn => ("~[", "]")
  | .lt => ("<", "")
  | .le => ("|<", "")
  | .gt => (">", "")
  | .ge => ("|>", "")

/-- The canonical text of a clause: key, colon and the value in the outer form of the operator. -/
def write (c : Clause) : String :=
  c.key ++ ":" ++ (enclosure c.operator).1 ++ c.value.inner ++ (enclosure c.operator).2

/-- A text in the outer form of an operator. -/
def enclose (o : Operator) (s : List Char) : List Char :=
  (enclosure o).1.toList ++ s ++ (enclosure o).2.toList

theorem toList_write (c : Clause) :
    (write c).toList = c.key.toList ++ ':' :: enclose c.operator c.value.inner.toList := by
  simp [write, enclose]

/-- A text has the outer form of an operator exactly when it is that form around something. -/
theorem form?_eq_some_iff {o : Operator} (ho : o ≠ .contains) {s v : List Char} :
    form? o s = some v ↔ s = enclose o v := by
  cases o <;>
    simp_all [form?, enclose, enclosure, Text.after?_eq_some_iff, Text.between?_eq_some_iff]

/-- A text is the outer form of the operator that it names, around what it holds. A text that asks
    for a substring has no form. -/
private theorem eq_enclose_of_operatorAndText {o : Operator} {s v : List Char}
    (h : operatorAndText s = (o, v)) :
    s = enclose o v ∧ (o = .contains → ∀ p, form? p s = none) := by
  -- Either the scanner finds no form, and the text is taken whole, or it finds one.
  by_cases hs : ∀ p, form? p s = none
  · rw [operatorAndText_of_no_form hs] at h
    obtain ⟨rfl, rfl⟩ := Prod.mk.inj h
    exact ⟨by simp [enclose, enclosure], fun _ => hs⟩
  · obtain ⟨p, hp⟩ := not_forall.1 hs
    obtain ⟨w, hw⟩ := Option.ne_none_iff_exists'.1 hp
    rw [operatorAndText_of_form? hw] at h
    obtain ⟨rfl, rfl⟩ := Prod.mk.inj h
    have hcontains : p ≠ .contains := by
      rintro rfl
      exact nomatch hw
    exact ⟨(form?_eq_some_iff hcontains).1 hw, fun ho => absurd ho hcontains⟩

/-- The outer form of an operator names it, whatever is inside; only a text that asks for a
    substring must not have a form by itself. -/
theorem operatorAndText_enclose {o : Operator} {v : List Char}
    (h : o = .contains → ∀ p, form? p v = none) : operatorAndText (enclose o v) = (o, v) := by
  by_cases ho : o = .contains
  · subst ho
    simpa [enclose, enclosure] using operatorAndText_of_no_form (h rfl)
  · exact operatorAndText_of_form? ((form?_eq_some_iff ho).2 rfl)

/-- A canonical text is read as its clause, if the clause was read from a token. -/
theorem classify_write {token : List Char} {clause : Clause} (h : classify token = some clause) :
    classify (write clause).toList = some clause := by
  obtain ⟨hkey, s, v, -, hs, hvalue⟩ := classify_eq_some_iff.1 h
  obtain ⟨henclose, hform⟩ := eq_enclose_of_operatorAndText hs
  have hinner : clause.operator = .contains → ∀ p, form? p clause.value.inner.toList = none := by
    intro ho
    -- A text without a form is its own value.
    have hself : clause.value.inner.toList = s := by
      rw [henclose, hvalue, ho]
      simp [Operator.readValue, Operator.takesList, Value.inner, enclose, enclosure]
    rw [hself]
    exact hform ho
  refine classify_eq_some_iff.2
    ⟨hkey, _, _, toList_write clause, operatorAndText_enclose hinner, ?_⟩
  rw [hvalue, Operator.readValue_inner]

/-- A canonical text holds no plus sign, if its value holds none. -/
theorem delimiter_notMem_write {clause : Clause} (hkey : isKey clause.key.toList)
    (hvalue : clause.value.Usable '+') : '+' ∉ (write clause).toList := by
  have hinner := hvalue.notMem_inner (by decide)
  have henclosure : '+' ∉ (enclosure clause.operator).1.toList ∧
      '+' ∉ (enclosure clause.operator).2.toList := by
    cases clause.operator <;> decide
  have hself := Grammar.colon.delimiter_notMem_of_isKey hkey
  simp only [Grammar.delimiter] at hself
  simp [toList_write, enclose, hinner, henclosure, hself]

end Colon

/-! ## Both grammars -/

namespace Grammar

/-- The canonical text of a clause. -/
def write : Grammar → Clause → String
  | suffix => Suffix.write
  | colon => Colon.write

variable {g : Grammar} {token : List Char} {clause : Clause}

/-- The key of a clause is a key in either grammar, so it holds no delimiter. -/
private theorem isKey_of_classify (h : g.classify token = some clause) : isKey clause.key.toList := by
  cases g with
  | suffix =>
    obtain ⟨-, v, hsplit, -⟩ := Suffix.classify_eq_some_iff.1 h
    exact (Suffix.cuts_of_split? hsplit).1
  | colon => exact (Colon.classify_eq_some_iff.1 h).1

/-- The canonical text of a clause that a token gives is a token that gives the clause. -/
private theorem clause?_write (hdelimiter : g.delimiter ∉ token) (h : g.clause? token = some clause) :
    g.clause? (g.write clause).toList = some clause ∧
      g.delimiter ∉ (g.write clause).toList ∧ (g.write clause).toList ≠ [] := by
  obtain ⟨hclassify, hvalue⟩ := clause?_eq_some_iff.1 h
  have hkey := isKey_of_classify hclassify
  -- The value is free of the delimiter because the token was.
  have husable := usable_of_classify hclassify hdelimiter hvalue
  rw [clause?_eq_some_iff]
  cases g with
  | suffix =>
    refine ⟨⟨Suffix.classify_write hclassify, hvalue⟩, Suffix.delimiter_notMem_write hkey husable, ?_⟩
    simp [write, Suffix.toList_write, Suffix.marker]
  | colon =>
    refine ⟨⟨Colon.classify_write hclassify, hvalue⟩, Colon.delimiter_notMem_write hkey husable, ?_⟩
    simp [write, Colon.toList_write]

/-- Rewriting a filter string in the canonical texts of its clauses keeps its clauses. -/
theorem tokenize_write (g : Grammar) (raw : String) :
    g.tokenize ((String.singleton g.delimiter).intercalate ((g.tokenize raw).map g.write)) =
      g.tokenize raw := by
  have hclauses : ∀ clause ∈ g.tokenize raw, g.clause? (g.write clause).toList = some clause ∧
      g.delimiter ∉ (g.write clause).toList ∧ (g.write clause).toList ≠ [] := by
    intro clause hclause
    obtain ⟨token, htoken, h⟩ := List.mem_filterMap.1 hclause
    exact clause?_write (delimiter_notMem_of_mem_tokens htoken) h
  -- Where the clauses come from does not matter any more.
  generalize g.tokenize raw = clauses at hclauses ⊢
  -- No canonical text is empty or holds a delimiter, so splitting gives back the texts.
  have htokens : g.tokens ((String.singleton g.delimiter).intercalate (clauses.map g.write)).toList =
      clauses.map fun clause => (g.write clause).toList := by
    rw [tokens, String.toList_intercalate, String.toList_singleton, List.map_map]
    refine Text.words_intercalate fun w hw => ?_
    obtain ⟨clause, hclause, rfl⟩ := List.mem_map.1 hw
    exact (hclauses clause hclause).2
  rw [tokenize, htokens, List.filterMap_map]
  calc clauses.filterMap (g.clause? ∘ fun clause => (g.write clause).toList)
      = clauses.filterMap some := List.filterMap_congr fun clause hclause => (hclauses clause hclause).1
    _ = clauses := List.filterMap_some

end Grammar

end FilterQuery
