import FilterQuery.Clause

/-!
# What lists carry

A list is written as its items with commas between them. It is read piece by piece, so whatever stands
on one side of a comma has no part in the items of the other side; spaces around a piece and blank
pieces are not read. What a list can carry are therefore the texts that reading leaves alone: those that
are not empty, are their own trim and have no comma in them.

Texts are taken apart at their commas by `Text.pieces_induction`: what is said of a single piece is
carried over to all texts by `listItems_append_comma`.

## Key results

- `listItems_intercalate_eq_iff`, `map_listItems_intercalate_eq_iff`: joined texts are read back exactly
  when each of them can be an item
- `listItems_between_spaces`: spaces at the two ends of a text make no difference to its items
- `joined_items_are_read_back`: the laws of lists in one statement
-/

namespace FilterQuery

/-- Joined texts are read back exactly when each of them can be an item. -/
theorem listItems_intercalate_eq_iff {items : List (List Char)} :
    listItems (List.intercalate [','] items) = items ↔
      ∀ item ∈ items, item ≠ [] ∧ Text.trim item = item ∧ ',' ∉ item := by
  constructor
  · intro h item hitem
    -- What is read is always well-formed.
    have hread : item ∈ listItems (List.intercalate [','] items) := by rwa [h]
    exact wellFormed_of_mem_listItems hread
  · exact listItems_intercalate

/-- Joined strings are read back exactly when each of them can be an item. -/
theorem map_listItems_intercalate_eq_iff {items : List String} :
    (listItems (",".intercalate items).toList).map String.ofList = items ↔
      ∀ item ∈ items, item ≠ "" ∧ Text.trim item.toList = item.toList ∧ ',' ∉ item.toList := by
  -- Strings and lists of characters are two views of one text.
  have hmap (xs : List (List Char)) :
      xs.map String.ofList = items ↔ xs = items.map String.toList := by
    constructor
    · rintro rfl
      simp
    · rintro rfl
      simp
  calc (listItems (",".intercalate items).toList).map String.ofList = items
      ↔ listItems (List.intercalate [','] (items.map String.toList)) = items.map String.toList := by
        rw [hmap, String.toList_intercalate]
        rfl
    _ ↔ ∀ x ∈ items.map String.toList, x ≠ [] ∧ Text.trim x = x ∧ ',' ∉ x :=
        listItems_intercalate_eq_iff
    _ ↔ ∀ item ∈ items,
          item ≠ "" ∧ Text.trim item.toList = item.toList ∧ ',' ∉ item.toList := by
        simp

/-! ## Spaces -/

/-- A single piece gives one item, or none when it is blank. -/
private theorem listItems_of_comma_notMem {p : List Char} (h : ',' ∉ p) :
    listItems p = [Text.trim p].filter (· ≠ []) := by
  rw [listItems, Text.pieces_of_notMem h, List.map_singleton]

private theorem comma_notMem_of_spaces {s : List Char} (h : ∀ c ∈ s, Text.isSpace c) : ',' ∉ s := by
  intro hm
  exact absurd (h ',' hm) (by decide)

section Spaces

variable {before after : List Char} (hbefore : ∀ c ∈ before, Text.isSpace c)
  (hafter : ∀ c ∈ after, Text.isSpace c)
include hbefore hafter

/-- Spaces around a single piece are trimmed off. -/
private theorem listItems_piece_between_spaces {p : List Char} (hp : ',' ∉ p) :
    listItems (before ++ p ++ after) = listItems p := by
  have hcomma : ',' ∉ before ++ p ++ after := by
    simp only [List.mem_append, not_or]
    exact ⟨⟨comma_notMem_of_spaces hbefore, hp⟩, comma_notMem_of_spaces hafter⟩
  rw [listItems_of_comma_notMem hcomma, listItems_of_comma_notMem hp,
    Text.trim_between_spaces hbefore hafter]

/-- Spaces at the two ends of a text make no difference to its items. -/
theorem listItems_between_spaces (s : List Char) :
    listItems (before ++ s ++ after) = listItems s := by
  -- The spaces in front are generalized: behind the first comma there are none.
  induction s using Text.pieces_induction ',' generalizing before with
  | piece p hp => exact listItems_piece_between_spaces hbefore hafter hp
  | join p s hp ih =>
    -- The first piece has the spaces in front of the text, what follows has those behind it.
    have hnone : ∀ c ∈ ([] : List Char), Text.isSpace c := by simp
    calc listItems (before ++ (p ++ ',' :: s) ++ after)
        = listItems ((before ++ p ++ []) ++ ',' :: ([] ++ s ++ after)) := by simp
      _ = listItems (before ++ p ++ []) ++ listItems ([] ++ s ++ after) :=
        listItems_append_comma _ _
      _ = listItems p ++ listItems s := by
        rw [listItems_piece_between_spaces hbefore hnone hp, ih hnone]
      _ = listItems (p ++ ',' :: s) := (listItems_append_comma p s).symm

end Spaces

/-! ## Lists of strings -/

/-- What a list carries. A list of texts that is joined with commas is read back exactly when every
    text is not empty, is its own trim and has no comma; the items on either side of a comma are read
    independently; the items of any text are read back when they are joined; and spaces at the two ends
    of a text make no difference to its items. -/
theorem joined_items_are_read_back :
    (∀ items : List String,
      (listItems (",".intercalate items).toList).map String.ofList = items ↔
        ∀ item ∈ items, item ≠ "" ∧ Text.trim item.toList = item.toList ∧ ',' ∉ item.toList) ∧
    (∀ x y : String,
      listItems (x ++ "," ++ y).toList = listItems x.toList ++ listItems y.toList) ∧
    (∀ s : String,
      listItems (",".intercalate ((listItems s.toList).map String.ofList)).toList =
        listItems s.toList) ∧
    (∀ before s after : String, (∀ c ∈ before.toList, Text.isSpace c) →
      (∀ c ∈ after.toList, Text.isSpace c) →
        listItems (before ++ s ++ after).toList = listItems s.toList) := by
  refine ⟨fun items => map_listItems_intercalate_eq_iff, fun x y => ?_, fun s => ?_,
    fun before s after hbefore hafter => ?_⟩
  · rw [String.toList_append, String.toList_append, List.append_assoc]
    exact listItems_append_comma _ _
  · rw [toList_intercalate_comma, listItems_intercalate_listItems]
  · rw [String.toList_append, String.toList_append, listItems_between_spaces hbefore hafter]

/-- The laws at a list whose second item has a space in it. It is read back, also with an ideographic
    space in front of it, a blank piece between the items and a tab at the end. With a space at the end
    of an item it is not read back. -/
theorem joined_items_are_read_back_spaced :
    (∀ c ∈ "\u3000".toList, Text.isSpace c) ∧ (∀ c ∈ "\t".toList, Text.isSpace c) ∧
    (listItems "v1,v 2".toList).map String.ofList = ["v1", "v 2"] ∧
    listItems ("\u3000" ++ ("v1" ++ "," ++ ",v 2") ++ "\t").toList = listItems "v1,v 2".toList ∧
    (listItems "v1,v 2 ".toList).map String.ofList ≠ ["v1", "v 2 "] := by
  obtain ⟨hjoined, happend, -, hspaces⟩ := joined_items_are_read_back
  have hbefore : ∀ c ∈ "\u3000".toList, Text.isSpace c := by simp [Text.isSpace]
  have hafter : ∀ c ∈ "\t".toList, Text.isSpace c := by simp [Text.isSpace]
  refine ⟨hbefore, hafter, (hjoined ["v1", "v 2"]).2 (by decide), ?_, fun h => ?_⟩
  · rw [hspaces _ _ _ hbefore hafter, happend]
    decide
  -- The item with a space at its end is not its own trim.
  · have htrim := ((hjoined ["v1", "v 2 "]).1 h "v 2 " (by simp)).2.1
    exact absurd htrim (by decide)

end FilterQuery
