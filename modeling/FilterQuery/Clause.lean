import FilterQuery.Operator
import FilterQuery.Text.Pieces
import FilterQuery.Text.Quoted
import FilterQuery.Text.Space

/-! # Clauses

A clause is one condition of a filter string: a key, an operator and a value. The value is a single
text, or a list of texts for the operators that take one. This module also fixes how the text
between the brackets of a list is read, `listItems`, and which texts are keys, `isKey`.

* `listItems_append_comma`    items are read on either side of a comma independently
* `wellFormed_of_mem_listItems`  every item is not empty, trimmed and free of commas
* `listItems_intercalate`     such texts are read back when they are joined with commas
* `listItems_intercalate_listItems`  so are the items of any text
-/

namespace FilterQuery

/-- What a field is compared with. -/
inductive Value where
  | single (text : String)
  | list (items : List String)
  deriving DecidableEq

namespace Value

/-- Nothing to compare with: the empty text or the empty list. -/
def isEmpty : Value → Bool
  | single text => text.isEmpty
  | list items => items.isEmpty

/-- The characters of a value as shown to readers: texts between quotes, lists between brackets. -/
def displayChars : Value → List Char
  | single text => Text.quoted text.toList
  | list items =>
    '[' :: List.intercalate [',', ' '] (items.map fun item => Text.quoted item.toList) ++ [']']

/-- A value as shown to readers. -/
def display (v : Value) : String :=
  String.ofList v.displayChars

end Value

/-- One condition of a filter string. -/
structure Clause where
  key : String
  operator : Operator
  value : Value
  deriving DecidableEq

/-! ## Keys -/

/-- The characters of keys: ASCII letters, ASCII digits and the underscore. -/
def isKeyChar (c : Char) : Bool :=
  c.isAlphanum || c == '_'

/-- A key is a non-empty row of key characters. -/
def isKey (s : List Char) : Bool :=
  !s.isEmpty && s.all isKeyChar

/-- Keys are not empty, and all their characters are key characters. -/
theorem isKey_iff {s : List Char} : isKey s ↔ s ≠ [] ∧ ∀ c ∈ s, isKeyChar c := by
  simp [isKey]

/-- A key with key characters behind it is a key. -/
theorem isKey_append {s t : List Char} (hs : isKey s) (ht : ∀ c ∈ t, isKeyChar c) :
    isKey (s ++ t) := by
  rw [isKey_iff] at hs ⊢
  refine ⟨List.append_ne_nil_of_left_ne_nil hs.1 t, fun c hc => ?_⟩
  rcases List.mem_append.1 hc with hc | hc
  · exact hs.2 c hc
  · exact ht c hc

/-- What a key begins with is a key, if there is anything. -/
theorem isKey_of_prefix {s t : List Char} (h : s <+: t) (hs : s ≠ []) (ht : isKey t) : isKey s :=
  isKey_iff.2 ⟨hs, fun c hc => (isKey_iff.1 ht).2 c (h.subset hc)⟩

/-! ## Lists -/

/-- The items of a list: what stands between commas, without the spaces around it. Blank items are
left out. -/
def listItems (s : List Char) : List (List Char) :=
  ((Text.pieces ',' s).map Text.trim).filter (· ≠ [])

/-- The value that an operator reads from a text. -/
def Operator.readValue (o : Operator) (s : List Char) : Value :=
  if o.takesList then .list ((listItems s).map String.ofList) else .single (String.ofList s)

/-- Items are read on either side of a comma independently. -/
theorem listItems_append_comma (s t : List Char) :
    listItems (s ++ ',' :: t) = listItems s ++ listItems t := by
  simp [listItems, Text.pieces_append_cons]

/-- Every item is not empty, its own trim, and free of commas. -/
theorem wellFormed_of_mem_listItems {s x : List Char} (h : x ∈ listItems s) :
    x ≠ [] ∧ Text.trim x = x ∧ ',' ∉ x := by
  obtain ⟨hmem, hne⟩ := List.mem_filter.1 h
  obtain ⟨p, hp, rfl⟩ := List.mem_map.1 hmem
  exact ⟨by simpa using hne, Text.trim_trim p,
    fun hc => Text.notMem_of_mem_pieces hp (Text.mem_of_mem_trim hc)⟩

/-- Items joined with commas are read back. -/
theorem listItems_intercalate {xs : List (List Char)}
    (h : ∀ x ∈ xs, x ≠ [] ∧ Text.trim x = x ∧ ',' ∉ x) :
    listItems (List.intercalate [','] xs) = xs := by
  cases xs with
  | nil => decide
  | cons x xs =>
    have htrim : (x :: xs).map Text.trim = x :: xs := by
      rw [List.map_congr_left fun y hy => (h y hy).2.1, List.map_id']
    rw [listItems, Text.pieces_intercalate (List.cons_ne_nil x xs) fun y hy => (h y hy).2.2, htrim,
      List.filter_eq_self]
    exact fun y hy => by simpa using (h y hy).1

/-- The items of a text are read back when they are joined. -/
theorem listItems_intercalate_listItems (s : List Char) :
    listItems (List.intercalate [','] (listItems s)) = listItems s :=
  listItems_intercalate fun _ => wellFormed_of_mem_listItems

/-- Texts that are joined as strings are joined as rows of characters. -/
theorem toList_intercalate_comma (xs : List (List Char)) :
    (",".intercalate (xs.map String.ofList)).toList = List.intercalate [','] xs := by
  rw [String.toList_intercalate, List.map_map]
  congr 1
  exact List.map_congr_left (fun x _ => String.toList_ofList) |>.trans (List.map_id _)

end FilterQuery
