import FilterQuery.Grammar.Suffix

/-!
# The language of the suffix grammar

A text is a clause of the suffix grammar when it is a key, a marker and a rest, `Suffix.Fits`. Many
texts fit in several ways, because keys and rests may hold markers themselves. This file states the
language and its disambiguation on whole texts, without the functions that scan them, and proves
that the grammar reads exactly that.

## Key results

- `Suffix.cuts_iff`: the cuts that the scanner looks for are the ways in which a text fits
- `Suffix.read?_eq_none_iff`, `Suffix.read?_eq_some_iff`: what one operator reads
- `Suffix.classify_iff_first_fit`: the first operator that fits wins, with its shortest key
-/

namespace FilterQuery.Suffix

/-! ## The language -/

/-- ASCII letters, ASCII digits and the underscore. -/
def IsKeyLetter (c : Char) : Prop :=
  ('A' ≤ c ∧ c ≤ 'Z') ∨ ('a' ≤ c ∧ c ≤ 'z') ∨ ('0' ≤ c ∧ c ≤ '9') ∨ c = '_'

/-- The operator fits the text: the text is a key, the operator's code between double underscores,
    and a rest, which is bracketed for the operators that take a list. -/
def Fits (o : Operator) (text key rest : String) : Prop :=
  (key ≠ "" ∧ ∀ c ∈ key.toList, IsKeyLetter c) ∧
    (o.takesList → ∃ inner, rest = "[" ++ inner ++ "]") ∧
    text = key ++ "__" ++ o.code ++ "__" ++ rest

/-- What a rest stands for: itself, or the items between the brackets. -/
def Denotes (o : Operator) (rest : String) (value : Value) : Prop :=
  if o.takesList then
    ∃ inner, rest = "[" ++ inner ++ "]" ∧
      value = .list ((listItems inner.toList).map String.ofList)
  else value = .single rest

/-! ## Texts and lists of characters -/

/-- The characters that the scanner takes for key characters are letters, digits and the underscore. -/
theorem isKeyChar_iff (c : Char) : isKeyChar c ↔ IsKeyLetter c := by
  -- The classes of the library, spelled out as the ranges they are.
  have hranges : isKeyChar c = (decide ('A' ≤ c ∧ c ≤ 'Z') ||
      decide ('a' ≤ c) && decide (c ≤ 'z') || decide ('0' ≤ c) && decide (c ≤ '9') ||
      c == '_') := rfl
  simp only [hranges, IsKeyLetter, Bool.or_eq_true, Bool.and_eq_true, decide_eq_true_eq,
    beq_iff_eq, or_assoc]

/-- The keys of the scanner are the texts of such characters, apart from the empty one. -/
theorem isKey_toList_iff (key : String) :
    isKey key.toList ↔ key ≠ "" ∧ ∀ c ∈ key.toList, IsKeyLetter c := by
  simp only [isKey_iff, isKeyChar_iff, ne_eq, String.toList_eq_nil_iff]

private theorem eq_bracketed_iff (rest inner : String) :
    rest = "[" ++ inner ++ "]" ↔ rest.toList = '[' :: (inner.toList ++ [']']) := by
  rw [← String.toList_inj]
  simp

/-- The payload of a rest is what its brackets hold, where brackets are needed, and else the
    rest itself. -/
theorem payload?_eq_some_iff (o : Operator) (s v : List Char) :
    payload? o s = some v ↔ if o.takesList then s = '[' :: (v ++ [']']) else s = v := by
  unfold payload?
  split
  · rw [Text.between?_eq_some_iff]
    rfl
  · rw [Option.some.injEq]

/-- A rest has a payload exactly when it is bracketed or need not be. -/
theorem exists_payload?_iff (o : Operator) (rest : String) :
    (∃ v, payload? o rest.toList = some v) ↔
      (o.takesList → ∃ inner, rest = "[" ++ inner ++ "]") := by
  simp only [payload?_eq_some_iff]
  by_cases ho : o.takesList
  · -- With a list the payload is the text between the brackets, and there is one for each such
    -- text.
    simp only [ho, if_true, forall_const, eq_bracketed_iff]
    constructor
    · intro h
      obtain ⟨v, hv⟩ := h
      exact ⟨String.ofList v, by rw [String.toList_ofList, hv]⟩
    · intro h
      obtain ⟨inner, hinner⟩ := h
      exact ⟨inner.toList, hinner⟩
  · simp [ho]

private theorem eq_key_marker_rest_iff (o : Operator) (text key rest : String) :
    text = key ++ "__" ++ o.code ++ "__" ++ rest ↔
      text.toList = key.toList ++ (marker o ++ rest.toList) := by
  rw [← String.toList_inj]
  simp [marker]

/-- An operator fits when what stands before and behind its marker is a key and has a payload. -/
theorem fits_iff (o : Operator) (text key rest : String) :
    Fits o text key rest ↔
      isKey key.toList ∧ text.toList = key.toList ++ (marker o ++ rest.toList) ∧
        ∃ v, payload? o rest.toList = some v := by
  rw [Fits, ← isKey_toList_iff, ← exists_payload?_iff, eq_key_marker_rest_iff]
  exact and_congr_right fun _ => And.comm

/-- The cuts that the scanner looks for are the ways in which a text fits. -/
theorem cuts_iff (o : Operator) (text key : String) (v : List Char) :
    Cuts o text.toList key.toList v ↔
      ∃ rest : String, Fits o text key rest ∧ payload? o rest.toList = some v := by
  constructor
  · intro h
    -- A cut names the payload only, but the rest around it is what follows the marker.
    obtain ⟨hkey, r, htext, hv⟩ := h
    have hr : (String.ofList r).toList = r := String.toList_ofList
    refine ⟨String.ofList r, (fits_iff o text key _).2 ⟨hkey, ?_, ?_⟩, ?_⟩
    · rw [hr, htext]
    · exact ⟨v, by rw [hr, hv]⟩
    · rw [hr, hv]
  · intro h
    obtain ⟨rest, hfits, hv⟩ := h
    obtain ⟨hkey, htext, -⟩ := (fits_iff o text key rest).1 hfits
    exact ⟨hkey, rest.toList, htext, hv⟩

/-- Each way to fit is a cut. -/
private theorem exists_cut_of_fits {o : Operator} {text key rest : String} (h : Fits o text key rest) :
    ∃ v, Cuts o text.toList key.toList v := by
  obtain ⟨-, -, v, hv⟩ := (fits_iff o text key rest).1 h
  exact ⟨v, (cuts_iff o text key v).2 ⟨rest, h, hv⟩⟩

/-- A rest denotes what the operator reads from its payload. -/
theorem denotes_iff (o : Operator) (rest : String) (value : Value) :
    Denotes o rest value ↔ ∃ v, payload? o rest.toList = some v ∧ value = o.readValue v := by
  simp only [Denotes, payload?_eq_some_iff, Operator.readValue]
  by_cases ho : o.takesList
  · simp only [ho, if_true, eq_bracketed_iff]
    constructor
    · intro h
      obtain ⟨inner, hrest, rfl⟩ := h
      exact ⟨inner.toList, hrest, rfl⟩
    · intro h
      obtain ⟨v, hrest, rfl⟩ := h
      exact ⟨String.ofList v, by rw [String.toList_ofList, hrest], by rw [String.toList_ofList]⟩
  · simp [ho, String.ofList_toList]

/-! ## One operator -/

/-- An operator reads nothing exactly when it does not fit. -/
theorem read?_eq_none_iff (o : Operator) (text : String) :
    read? o text.toList = none ↔ ∀ key rest, ¬ Fits o text key rest := by
  rw [read?, Option.map_eq_none_iff, split?_eq_none_iff]
  -- Cuts have lists of characters for keys, fits have strings.
  constructor
  · intro h key rest hfits
    obtain ⟨v, hcut⟩ := exists_cut_of_fits hfits
    exact h _ v hcut
  · intro h k v hcut
    rw [← String.toList_ofList (l := k), cuts_iff] at hcut
    obtain ⟨rest, hfits, -⟩ := hcut
    exact h _ rest hfits

/-- An operator that fits reads its shortest key and what the rest after it denotes. -/
theorem read?_eq_some_iff (o : Operator) (text : String) (clause : Clause) :
    read? o text.toList = some clause ↔
      clause.operator = o ∧ ∃ rest, Fits o text clause.key rest ∧
        (∀ key' rest', Fits o text key' rest' → clause.key.length ≤ key'.length) ∧
        Denotes o rest clause.value := by
  simp only [read?, Option.map_eq_some_iff, Prod.exists]
  constructor
  · intro h
    obtain ⟨k, v, hsplit, rfl⟩ := h
    obtain ⟨hcut, hmin⟩ := split?_eq_some_iff.1 hsplit
    rw [← String.toList_ofList (l := k), cuts_iff] at hcut
    obtain ⟨rest, hfits, hv⟩ := hcut
    refine ⟨rfl, rest, hfits, fun key' rest' hfits' => ?_, (denotes_iff _ _ _).2 ⟨v, hv, rfl⟩⟩
    -- Any other way to fit is a cut too, and the scanner took the shortest.
    obtain ⟨v', hcut'⟩ := exists_cut_of_fits hfits'
    simpa [String.length_toList] using hmin _ v' hcut'
  · intro h
    obtain ⟨rfl, rest, hfits, hmin, hdenotes⟩ := h
    obtain ⟨v, hv, hvalue⟩ := (denotes_iff _ _ _).1 hdenotes
    refine ⟨clause.key.toList, v, split?_eq_some_iff.2 ⟨?_, fun k' v' hcut' => ?_⟩, ?_⟩
    · exact (cuts_iff _ _ _ _).2 ⟨rest, hfits, hv⟩
    · rw [← String.toList_ofList (l := k'), cuts_iff] at hcut'
      obtain ⟨rest', hfits', -⟩ := hcut'
      simpa [String.length_toList] using hmin _ rest' hfits'
    · rw [String.ofList_toList, ← hvalue]

/-! ## All operators -/

/-- Some operator reads a clause exactly when some operator fits. -/
private theorem exists_classify_iff (text : String) :
    (∃ clause, classify text.toList = some clause) ↔ ∃ o key rest, Fits o text key rest := by
  constructor
  · intro h
    obtain ⟨clause, hclassify⟩ := h
    obtain ⟨o, -, ho⟩ := List.exists_of_findSome?_eq_some hclassify
    obtain ⟨-, rest, hfits, -⟩ := (read?_eq_some_iff o text clause).1 ho
    exact ⟨o, _, rest, hfits⟩
  · intro h
    obtain ⟨o, key, rest, hfits⟩ := h
    cases h : classify text.toList with
    | some clause => exact ⟨clause, rfl⟩
    -- All operators are tried, so without a clause none of them fits.
    | none =>
      have ho := List.findSome?_eq_none_iff.1 h o (mem_precedence o)
      exact absurd hfits ((read?_eq_none_iff o text).1 ho key rest)

/-- The grammar reads exactly its language. A text is a clause when some operator fits it. The
    operator of the clause is the first that fits, its key is the shortest with which that operator
    fits, and its value is what the rest denotes. -/
theorem classify_iff_first_fit (text : String) :
    ((∃ clause, classify text.toList = some clause) ↔ ∃ o key rest, Fits o text key rest) ∧
      ∀ clause : Clause, classify text.toList = some clause ↔
        (∃ earlier later, [.lt, .le, .gt, .ge, .exact, .isIn, .notIn, .contains] =
            earlier ++ clause.operator :: later ∧
          ∀ o ∈ earlier, ∀ key rest, ¬ Fits o text key rest) ∧
        ∃ rest, Fits clause.operator text clause.key rest ∧
          (∀ key' rest', Fits clause.operator text key' rest' →
            clause.key.length ≤ key'.length) ∧
          Denotes clause.operator rest clause.value := by
  refine ⟨exists_classify_iff text, fun clause => ?_⟩
  -- The operators are tried in the order of precedence, which is written out in the statement.
  rw [classify, List.findSome?_eq_some_iff]
  simp only [read?_eq_none_iff]
  constructor
  · intro h
    obtain ⟨earlier, o, later, horder, ho, hearlier⟩ := h
    obtain ⟨rfl, rest, hfits, hmin, hdenotes⟩ := (read?_eq_some_iff o text clause).1 ho
    exact ⟨⟨earlier, later, horder, hearlier⟩, rest, hfits, hmin, hdenotes⟩
  · intro h
    obtain ⟨⟨earlier, later, horder, hearlier⟩, rest, hfits, hmin, hdenotes⟩ := h
    exact ⟨earlier, clause.operator, later, horder,
      (read?_eq_some_iff _ text clause).2 ⟨rfl, rest, hfits, hmin, hdenotes⟩, hearlier⟩

/-- A marker in the key: the key of a list operator reaches to the bracketed rest. -/
example : classify "a__in__b__in__[x]".toList = some ⟨"a__in__b", .isIn, .list ["x"]⟩ := by
  decide

end FilterQuery.Suffix
