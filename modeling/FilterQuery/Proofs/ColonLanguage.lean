import FilterQuery.Proofs.CanonicalText
import FilterQuery.Proofs.NamedKeys

/-!
# The language of the colon grammar

A token of the colon grammar is a key, a colon and a text. Seven operators have an outer form, which
the text of a token has or has not, whatever stands inside; a text without such a form asks for a
substring. This file states the forms on whole texts, `Colon.Form`, and proves that the grammar reads
exactly these tokens, each in one way only.

The forms do not overlap, so the order in which they are tried has no say: `Colon.classifyBy` reads a
token with the forms in any order.

## Key results

- `Colon.form_iff`: the forms that the scanner looks for are the forms of texts
- `Colon.classify_eq_none_iff`: which tokens are no clauses
- `Colon.classify_of_form`, `Colon.classify_contains_iff`: what becomes of a text with a form and of one
  without
- `Colon.classifyBy_eq_classify`: the forms may be tried in any order
- `Colon.classify_by_key_and_form`: the language of the grammar in one statement
-/

namespace FilterQuery.Colon

open Suffix (IsKeyLetter isKey_toList_iff)

variable {key text : String} {o p : Operator} {v w : Value}

/-! ## The forms -/

/-- The text has the outer form of an operator around the text of a value. Lists stand between
    brackets, and what is in the brackets are their items. -/
inductive Form : String → Operator → Value → Prop where
  | lt (v : String) : Form ("<" ++ v) .lt (.single v)
  | le (v : String) : Form ("|<" ++ v) .le (.single v)
  | gt (v : String) : Form (">" ++ v) .gt (.single v)
  | ge (v : String) : Form ("|>" ++ v) .ge (.single v)
  | exact (v : String) : Form ("\"" ++ v ++ "\"") .exact (.single v)
  | isIn (v : String) :
    Form ("[" ++ v ++ "]") .isIn (.list ((listItems v.toList).map String.ofList))
  | notIn (v : String) :
    Form ("~[" ++ v ++ "]") .notIn (.list ((listItems v.toList).map String.ofList))

/-- The forms are those of the canonical texts, with anything inside. -/
theorem form_enclosure (ho : o ≠ .contains) (v : String) :
    Form ((enclosure o).1 ++ v ++ (enclosure o).2) o (o.readValue v.toList) := by
  cases o with
  | contains => exact absurd rfl ho
  | lt => simpa [enclosure, Operator.readValue, Operator.takesList] using Form.lt v
  | le => simpa [enclosure, Operator.readValue, Operator.takesList] using Form.le v
  | gt => simpa [enclosure, Operator.readValue, Operator.takesList] using Form.gt v
  | ge => simpa [enclosure, Operator.readValue, Operator.takesList] using Form.ge v
  | exact => simpa [enclosure, Operator.readValue, Operator.takesList] using Form.exact v
  | isIn => exact .isIn v
  | notIn => exact .notIn v

/-- The forms that the scanner looks for are the forms of texts. -/
theorem form_iff : Form text o v ↔ ∃ s, form? o text.toList = some s ∧ v = o.readValue s := by
  constructor
  · intro h
    -- Every form is the enclosure of its operator.
    cases h with
    | lt v | le v | gt v | ge v | exact v | isIn v | notIn v =>
      refine ⟨v.toList, ?_, ?_⟩
      · rw [form?_eq_some_iff (by decide)]
        simp [enclose, enclosure]
      · simp [Operator.readValue, Operator.takesList]
  · intro h
    obtain ⟨s, hs, rfl⟩ := h
    have ho : o ≠ .contains := by
      rintro rfl
      simp [form?] at hs
    -- The form found in the text is the canonical one around what it holds.
    have htext : text = (enclosure o).1 ++ String.ofList s ++ (enclosure o).2 := by
      rw [← String.toList_inj, (form?_eq_some_iff ho).1 hs]
      simp [enclose]
    have hform := form_enclosure ho (String.ofList s)
    rwa [← htext, String.toList_ofList] at hform

/-- A text without a form is one in which the scanner finds none. -/
theorem forall_not_form_iff : (∀ o v, ¬ Form text o v) ↔ ∀ o, form? o text.toList = none := by
  constructor
  · intro h o
    refine Option.eq_none_iff_forall_ne_some.2 fun s hs => ?_
    exact h o _ (form_iff.2 ⟨s, hs, rfl⟩)
  · intro h o v hform
    obtain ⟨s, hs, -⟩ := form_iff.1 hform
    rw [h o] at hs
    exact nomatch hs

/-- A text has at most one form, with one value. -/
theorem Form.unique (h : Form text o v) (h' : Form text p w) : o = p ∧ v = w := by
  obtain ⟨s, hs, rfl⟩ := form_iff.1 h
  obtain ⟨t, ht, rfl⟩ := form_iff.1 h'
  -- The scanner finds one form at most.
  obtain rfl : o = p := eq_of_form?_eq_some hs ht
  have hst : s = t := Option.some.inj (hs.symm.trans ht)
  exact ⟨rfl, by rw [hst]⟩

/-! ## Tokens -/

/-- A token is no clause if it has no colon, or no key before the first one. -/
theorem classify_eq_none_iff {token : String} :
    classify token.toList = none ↔
      ':' ∉ token.toList ∨ ∃ before after : String, token = before ++ ":" ++ after ∧
        ':' ∉ before.toList ∧ ¬ (before ≠ "" ∧ ∀ c ∈ before.toList, IsKeyLetter c) := by
  unfold classify
  cases hcut : Text.cut? ':' token.toList with
  | none =>
    have hcolon : ':' ∉ token.toList := Text.cut?_eq_none_iff.1 hcut
    simp [hcolon]
  | some ks =>
    obtain ⟨k, s⟩ := ks
    obtain ⟨htoken, hk⟩ := Text.cut?_eq_some_iff.1 hcut
    have hcolon : ':' ∈ token.toList := by simp [htoken]
    -- The first colon is the one of the cut, so the text before it is settled.
    have hbefore : ∀ before after : String, token = before ++ ":" ++ after → ':' ∉ before.toList →
        before.toList = k := by
      rintro before after rfl hnot
      have hsame : Text.cut? ':' (before ++ ":" ++ after).toList =
          some (before.toList, after.toList) :=
        Text.cut?_eq_some_iff.2 ⟨by simp, hnot⟩
      rw [hsame] at hcut
      exact (Prod.mk.inj (Option.some.inj hcut)).1
    by_cases hkey : isKey k
    · -- With a key before the colon the token is a clause, and no other cut could say otherwise.
      simp only [hkey, if_true, reduceCtorEq, false_iff, not_or, not_not, hcolon, true_and]
      rintro ⟨before, after, htext, hnot, hbad⟩
      rw [← hbefore before after htext hnot] at hkey
      exact hbad ((isKey_toList_iff before).1 hkey)
    · -- Without one the parts of the cut are the parts that are asked for.
      simp only [hkey, Bool.false_eq_true, if_false, true_iff]
      refine .inr ⟨String.ofList k, String.ofList s, ?_, by rwa [String.toList_ofList], ?_⟩
      · rw [← String.toList_inj, htoken]
        simp
      · rw [← isKey_toList_iff, String.toList_ofList]
        exact hkey

/-- A text with a form names its operator. -/
theorem classify_of_form (hkey : isKey key.toList) (h : Form text o v) :
    classify (key.toList ++ ':' :: text.toList) = some ⟨key, o, v⟩ := by
  obtain ⟨s, hs, rfl⟩ := form_iff.1 h
  rw [classify_of_isKey hkey, operatorAndText_of_form? hs]

/-- A text asks for itself as a substring exactly when it has no form. -/
theorem classify_contains_iff (hkey : isKey key.toList) :
    classify (key.toList ++ ':' :: text.toList) = some ⟨key, .contains, .single text⟩ ↔
      ∀ o v, ¬ Form text o v := by
  constructor
  · intro h o v hform
    rw [classify_of_form hkey hform] at h
    -- A form names one of the seven operators, and none of these is a substring test.
    obtain rfl : o = .contains := congrArg Clause.operator (Option.some.inj h)
    exact nomatch hform
  · intro h
    rw [classify_of_isKey hkey, operatorAndText_of_no_form (forall_not_form_iff.1 h)]
    simp [Operator.readValue, Operator.takesList]

/-! ## The order of the forms -/

/-- The operator that the outer form of a text names, if the forms are tried in the given order. -/
def operatorAndTextBy (order : List Operator) (s : List Char) : Operator × List Char :=
  (order.findSome? fun o => (form? o s).map (o, ·)).getD (.contains, s)

/-- The clause of a token, if the forms are tried in the given order. -/
def classifyBy (order : List Operator) (token : List Char) : Option Clause :=
  match Text.cut? ':' token with
  | none => none
  | some (k, s) =>
    if isKey k then
      let (o, v) := operatorAndTextBy order s
      some ⟨String.ofList k, o, o.readValue v⟩
    else none

/-- Whatever form is found first is the only one, so it does not matter which is tried first. -/
theorem operatorAndTextBy_eq {order : List Operator} (h : order.Perm forms) (s : List Char) :
    operatorAndTextBy order s = operatorAndText s := by
  -- Without any form the order has nothing to choose from; with one it has one form only.
  by_cases hs : ∀ o, form? o s = none
  · have hnone : (order.findSome? fun o => (form? o s).map (o, ·)) = none :=
      List.findSome?_eq_none_iff.2 fun o _ => by rw [hs o, Option.map_none]
    rw [operatorAndText_of_no_form hs, operatorAndTextBy, hnone, Option.getD_none]
  · obtain ⟨o, ho⟩ := not_forall.1 hs
    obtain ⟨v, hv⟩ := Option.ne_none_iff_exists'.1 ho
    have hmem : o ∈ order := h.mem_iff.2 (mem_forms_of_form? hv)
    rw [operatorAndText_of_form? hv, operatorAndTextBy]
    -- Whatever the order, the search meets this form, and no other can stop it before.
    cases hfound : order.findSome? fun o => (form? o s).map (o, ·) with
    | none =>
      have hmiss := List.findSome?_eq_none_iff.1 hfound o hmem
      rw [hv] at hmiss
      exact nomatch hmiss
    | some pw =>
      obtain ⟨p, -, hp⟩ := List.exists_of_findSome?_eq_some hfound
      obtain ⟨w, hw, rfl⟩ := Option.map_eq_some_iff.1 hp
      obtain rfl : o = p := eq_of_form?_eq_some hv hw
      have hvw : v = w := Option.some.inj (hv.symm.trans hw)
      rw [Option.getD_some, hvw]

/-- The forms may be tried in any order. -/
theorem classifyBy_eq_classify {order : List Operator} (h : order.Perm forms) (token : List Char) :
    classifyBy order token = classify token := by
  unfold classifyBy classify
  cases Text.cut? ':' token with
  | none => rfl
  | some ks => simp only [operatorAndTextBy_eq h]

/-! ## The language -/

/-- The grammar reads its language, each token in one way. A token is no clause exactly when it has no
    colon or no key before the first one. Behind a key and a colon, a text with the form of an operator
    names that operator, whatever is inside; it asks for itself as a substring exactly when it has no
    form; and in any case the clause has the key. No text has two forms, and the forms may be tried in
    any order. -/
theorem classify_by_key_and_form :
    (∀ token : String, classify token.toList = none ↔
      ':' ∉ token.toList ∨ ∃ before after : String, token = before ++ ":" ++ after ∧
        ':' ∉ before.toList ∧ ¬ (before ≠ "" ∧ ∀ c ∈ before.toList, IsKeyLetter c)) ∧
    (∀ key text : String, (key ≠ "" ∧ ∀ c ∈ key.toList, IsKeyLetter c) →
      (∀ o v, Form text o v → classify (key ++ ":" ++ text).toList = some ⟨key, o, v⟩) ∧
      (classify (key ++ ":" ++ text).toList = some ⟨key, .contains, .single text⟩ ↔
        ∀ o v, ¬ Form text o v) ∧
      ∃ o v, classify (key ++ ":" ++ text).toList = some ⟨key, o, v⟩) ∧
    (∀ text o v p w, Form text o v → Form text p w → o = p ∧ v = w) ∧
    ∀ order : List Operator, order.Perm [.lt, .le, .gt, .ge, .exact, .isIn, .notIn] →
      ∀ token, classifyBy order token = classify token := by
  refine ⟨fun token => classify_eq_none_iff, fun key text hkey => ?_,
    fun _ _ _ _ _ h h' => h.unique h', fun order h token => classifyBy_eq_classify h token⟩
  have hisKey : isKey key.toList := (isKey_toList_iff key).2 hkey
  -- Behind a key the first colon is the one that is written.
  have htoken : (key ++ ":" ++ text).toList = key.toList ++ ':' :: text.toList := by simp
  rw [htoken]
  exact ⟨fun o v h => classify_of_form hisKey h, classify_contains_iff hisKey,
    _, _, classify_of_isKey hisKey text.toList⟩

/-- The statement at texts on the border of the forms: quotes around a quote and a colon are a form, and
    a lone quote, which would have to be both quotes at once, is none. -/
theorem classify_by_key_and_form_quotes :
    ("st" ≠ "" ∧ ∀ c ∈ "st".toList, IsKeyLetter c) ∧
      (Form "\"a\":b\"" .exact (.single "a\":b") ∧
        classify "st:\"a\":b\"".toList = some ⟨"st", .exact, .single "a\":b"⟩) ∧
      ((∀ o v, ¬ Form "\"" o v) ∧
        classify "st:\"".toList = some ⟨"st", .contains, .single "\""⟩) ∧
      classifyBy [.notIn, .isIn, .exact, .ge, .gt, .le, .lt] "st:|<3".toList =
        some ⟨"st", .le, .single "3"⟩ := by
  have hkey : "st" ≠ "" ∧ ∀ c ∈ "st".toList, IsKeyLetter c := (isKey_toList_iff "st").1 (by decide)
  have hquoted : Form "\"a\":b\"" .exact (.single "a\":b") := .exact "a\":b"
  have hlone : ∀ o v, ¬ Form "\"" o v := by
    -- One quote cannot be the opening and the closing quote at the same time.
    refine forall_not_form_iff.2 fun o => ?_
    cases o <;> rfl
  have hperm : [Operator.notIn, .isIn, .exact, .ge, .gt, .le, .lt].Perm
      [.lt, .le, .gt, .ge, .exact, .isIn, .notIn] := by
    decide
  obtain ⟨-, hread, -, horder⟩ := classify_by_key_and_form
  exact ⟨hkey, ⟨hquoted, (hread "st" _ hkey).1 _ _ hquoted⟩,
    ⟨hlone, (hread "st" _ hkey).2.1.2 hlone⟩, (horder _ hperm _).trans rfl⟩

end FilterQuery.Colon
