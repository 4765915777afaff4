import FilterQuery.Filter.Display
import FilterQuery.Proofs.SuffixLanguage
import Mathlib.Tactic.SplitIfs

/-!
# Filters are told apart by their text

The text of a filter has brackets, commas and quotes for its structure, and values may hold all of them.
No two filters have one text all the same, if their fields are words, that is, made of letters, digits
and underscores. Each part of a text can be told from the text that begins with it: a word ends before
the first character that no word has, a quoted text at the first quote that is not escaped, and a filter
before a comma, a closing bracket or the end.

## Key results

- `Text.quoted_append_inj`: where a quoted text ends, and which text it is
- `append_inj_of_words`: where a word ends
- `members_append_inj`: where members between commas end
- `Filter.toldApart`: where a filter ends, and which filter it is
- `Filter.display_eq_iff`: filters with one text are equal
-/

namespace FilterQuery

/-! ## Quoted texts -/

namespace Text

/-- The character that a letter after a backslash stands for. -/
def named? (letter : Char) : Option Char :=
  if letter = '0' then some '\x00'
  else if letter = 't' then some '\t'
  else if letter = 'r' then some '\r'
  else if letter = 'n' then some '\n'
  else if letter = '"' ∨ letter = '\\' then some letter
  else none

/-- Reads the next character between quotes; before the closing quote there is none. -/
def nextQuoted? : List Char → Option (Char × List Char)
  | '\\' :: 'u' :: '\x7b' :: cs => do
    let (digits, rest) ← cut? '\x7d' cs
    let n ← hexNumber? digits
    some (Char.ofNat n, rest)
  | '\\' :: letter :: cs => (named? letter).map (·, cs)
  | c :: cs => if c = '"' then none else some (c, cs)
  | [] => none

private theorem brace_notMem_hexDigits (n : Nat) : '\x7d' ∉ hexDigits n := by
  have hdigit : ∀ m < 16, '\x7d' ≠ hexDigit m := by decide
  fun_induction hexDigits n with
  | case1 n h => exact fun hmem => hdigit n h (List.mem_singleton.1 hmem)
  | case2 n h ih =>
    rw [List.mem_append, List.mem_singleton, not_or]
    exact ⟨ih, hdigit (n % 16) (Nat.mod_lt n (by decide))⟩

/-- A character is read back from between the quotes, whatever follows it. -/
private theorem nextQuoted?_quotedChar (c : Char) (rest : List Char) :
    nextQuoted? (quotedChar c ++ rest) = some (c, rest) := by
  unfold quotedChar
  -- Six characters have a letter of their own, the others that are not visible are written by code.
  split_ifs with hzero htab hreturn hline hquote hbackslash hvisible
  · rw [hzero]; rfl
  · rw [htab]; rfl
  · rw [hreturn]; rfl
  · rw [hline]; rfl
  · rw [hquote]; rfl
  · rw [hbackslash]; rfl
  · have hplain : nextQuoted? (c :: rest) = if c = '"' then none else some (c, rest) := by
      rw [nextQuoted?.eq_def]
      split <;> simp_all
    exact hplain.trans (if_neg hquote)
  · have hcut : cut? '\x7d' (hexDigits c.toNat ++ '\x7d' :: rest) = some (hexDigits c.toNat, rest) :=
      cut?_eq_some_iff.2 ⟨rfl, brace_notMem_hexDigits _⟩
    simp only [List.cons_append, List.append_assoc, List.nil_append, nextQuoted?, hcut,
      hexNumber?_hexDigits, Char.ofNat_toNat, Option.bind_eq_bind, Option.bind_some]

/-- What stands between quotes can be told from a text that begins with it and the closing quote. -/
private theorem flatMap_quotedChar_append_inj {s t r r' : List Char}
    (h : s.flatMap quotedChar ++ '"' :: r = t.flatMap quotedChar ++ '"' :: r') : s = t ∧ r = r' := by
  have hclose : ∀ cs, nextQuoted? ('"' :: cs) = none := fun _ => rfl
  -- Both texts are read character by character; they end at the same one, for before a closing
  -- quote there is none to read.
  induction s generalizing t with
  | nil =>
    cases t with
    | nil => exact ⟨rfl, (List.cons.inj h).2⟩
    | cons d t =>
      rw [List.flatMap_cons, List.append_assoc] at h
      have hnext := congrArg nextQuoted? h
      rw [nextQuoted?_quotedChar, List.flatMap_nil, List.nil_append, hclose] at hnext
      exact nomatch hnext
  | cons c s ih =>
    rw [List.flatMap_cons, List.append_assoc] at h
    have hnext := congrArg nextQuoted? h
    rw [nextQuoted?_quotedChar] at hnext
    cases t with
    | nil =>
      rw [List.flatMap_nil, List.nil_append, hclose] at hnext
      exact nomatch hnext
    | cons d t =>
      rw [List.flatMap_cons, List.append_assoc, nextQuoted?_quotedChar] at hnext
      obtain ⟨rfl, hrest⟩ := Prod.mk.inj (Option.some.inj hnext)
      obtain ⟨rfl, hr⟩ := ih hrest
      exact ⟨rfl, hr⟩

/-- A quoted text can be told from a text that begins with it. -/
theorem quoted_append_inj {s t r r' : List Char} (h : quoted s ++ r = quoted t ++ r') :
    s = t ∧ r = r' := by
  rw [quoted, quoted, List.append_assoc, List.append_assoc, List.cons_append, List.cons_append] at h
  exact flatMap_quotedChar_append_inj (List.cons.inj h).2

end Text

/-! ## Words and members -/

/-- A word can be told from a text that begins with it, if no character of words follows. -/
theorem append_inj_of_words {w w' r r' : List Char} (hw : ∀ c ∈ w, isKeyChar c)
    (hw' : ∀ c ∈ w', isKeyChar c) (hr : ∀ c ∈ r.head?, isKeyChar c = false)
    (hr' : ∀ c ∈ r'.head?, isKeyChar c = false) (h : w ++ r = w' ++ r') : w = w' ∧ r = r' := by
  -- A word that ended earlier would be followed by a character of the other word.
  induction w generalizing w' with
  | nil =>
    cases w' with
    | nil => exact ⟨rfl, h⟩
    | cons d w' =>
      have hd : isKeyChar d = false := hr d (by rw [List.nil_append] at h; rw [h]; rfl)
      rw [hw' d (List.mem_cons_self ..)] at hd
      exact nomatch hd
  | cons c w ih =>
    cases w' with
    | nil =>
      have hc : isKeyChar c = false := hr' c (by rw [List.nil_append] at h; rw [← h]; rfl)
      rw [hw c (List.mem_cons_self ..)] at hc
      exact nomatch hc
    | cons d w' =>
      rw [List.forall_mem_cons] at hw hw'
      obtain ⟨rfl, hrest⟩ := List.cons.inj h
      obtain ⟨rfl, hr⟩ := ih hw.2 hw'.2 hrest
      exact ⟨rfl, hr⟩

/-- A member ends here: a comma follows, or the bracket that closes its group, or nothing. -/
def EndsMember (close : Char) (r : List Char) : Prop :=
  ∀ c ∈ r.head?, c = ',' ∨ c = close

section

variable {α : Type} {P : α → Prop} {write : α → List Char} {close : Char} {xs ys : List α}
  {r s : List Char}

/-- The member can be told from others of its kind by a text that begins with it. -/
def ToldApart (P : α → Prop) (write : α → List Char) (close : Char) (x : α) : Prop :=
  ∀ y, P y → ∀ r s, EndsMember close r → EndsMember close s →
    write x ++ r = write y ++ s → x = y ∧ r = s

/-- Members that are written behind another. -/
def behindOthers (write : α → List Char) (xs : List α) : List Char :=
  xs.flatMap fun x => ',' :: ' ' :: write x

/-- In front of the first member there is no comma. -/
private theorem behindOthers_cons (x : α) (xs : List α) :
    behindOthers write (x :: xs) = ',' :: ' ' :: List.intercalate [',', ' '] ((x :: xs).map write) := by
  induction xs generalizing x with
  | nil => simp [behindOthers]
  | cons y ys ih =>
    rw [List.map_cons, List.map_cons, List.intercalate_cons_cons, ← List.map_cons, List.append_assoc]
    rw [behindOthers, List.flatMap_cons, ← behindOthers, ih]
    rfl

/-- What follows a member is the comma of the next one or the closing bracket. -/
private theorem endsMember_behindOthers (xs : List α) (r : List Char) :
    EndsMember close (behindOthers write xs ++ close :: r) := by
  cases xs with
  | nil => simp [EndsMember, behindOthers]
  | cons x xs => simp [EndsMember, behindOthers]

/-- Members behind another can be told from a text that begins with them and the closing bracket. -/
private theorem behindOthers_append_inj (hclose : close ≠ ',')
    (hxs : ∀ x ∈ xs, ToldApart P write close x)
    (hys : ∀ y ∈ ys, P y)
    (h : behindOthers write xs ++ close :: r = behindOthers write ys ++ close :: s) :
    xs = ys ∧ r = s := by
  -- A comma goes on with a member, the closing bracket does not, and the two differ.
  induction xs generalizing ys with
  | nil =>
    cases ys with
    | nil => exact ⟨rfl, (List.cons.inj h).2⟩
    | cons y ys => exact absurd (List.cons.inj h).1 hclose
  | cons x xs ih =>
    cases ys with
    | nil => exact absurd (List.cons.inj h).1.symm hclose
    | cons y ys =>
      rw [List.forall_mem_cons] at hxs hys
      have hmember : write x ++ (behindOthers write xs ++ close :: r) =
          write y ++ (behindOthers write ys ++ close :: s) := by
        simpa [behindOthers] using h
      obtain ⟨rfl, hrest⟩ := hxs.1 y hys.1 _ _ (endsMember_behindOthers xs r)
        (endsMember_behindOthers ys s) hmember
      obtain ⟨rfl, hrs⟩ := ih hxs.2 hys.2 hrest
      exact ⟨rfl, hrs⟩

/-- Members between commas can be told from a text that begins with them and the closing bracket, if
    each can be told from others and none begins with the bracket. -/
theorem members_append_inj (hclose : close ≠ ',') (hfirst : ∀ x, P x → ∃ c ∈ (write x).head?, c ≠ close)
    (hx : ∀ x ∈ xs, P x ∧ ToldApart P write close x) (hy : ∀ y ∈ ys, P y)
    (h : List.intercalate [',', ' '] (xs.map write) ++ close :: r =
      List.intercalate [',', ' '] (ys.map write) ++ close :: s) : xs = ys ∧ r = s := by
  -- What begins with a member does not begin with the bracket.
  have hhead : ∀ {z : α} {zs : List α} {cs ds : List Char}, P z →
      close :: cs ≠ List.intercalate [',', ' '] ((z :: zs).map write) ++ ds := by
    intro z zs cs ds hz heq
    obtain ⟨c, hc, hne⟩ := hfirst z hz
    obtain ⟨rest, hrest⟩ := List.head?_eq_some_iff.1 hc
    cases zs with
    | nil =>
      rw [List.map_singleton, List.intercalate_singleton, hrest] at heq
      exact hne (List.cons.inj heq).1.symm
    | cons =>
      rw [List.map_cons, List.map_cons, List.intercalate_cons_cons, hrest] at heq
      exact hne (List.cons.inj heq).1.symm
  cases xs with
  | nil =>
    cases ys with
    | nil => exact ⟨rfl, (List.cons.inj h).2⟩
    | cons y ys => exact absurd h (hhead (hy y (List.mem_cons_self ..)))
  | cons x xs =>
    cases ys with
    | nil => exact absurd h.symm (hhead (hx x (List.mem_cons_self ..)).1)
    | cons y ys =>
      -- With a comma in front of the first ones too, these are members behind others.
      refine behindOthers_append_inj hclose (fun z hz => (hx z hz).2) hy ?_
      rw [behindOthers_cons, behindOthers_cons]
      exact congrArg (fun cs => ',' :: ' ' :: cs) h

end

/-! ## Values and comparisons -/

/-- A value can be told from a text that begins with it: a text has a quote in front, a list a bracket. -/
theorem Value.displayChars_append_inj {v w : Value} {r s : List Char}
    (h : v.displayChars ++ r = w.displayChars ++ s) : v = w ∧ r = s := by
  -- A quote or a bracket in front tells the two forms apart.
  cases v with
  | single x =>
    cases w with
    | single y =>
      obtain ⟨hxy, hrs⟩ := Text.quoted_append_inj h
      exact ⟨congrArg single (String.toList_inj.1 hxy), hrs⟩
    | list ys => exact nomatch (List.cons.inj h).1
  | list xs =>
    cases w with
    | single y => exact nomatch (List.cons.inj h).1
    | list ys =>
      rw [displayChars, displayChars, List.append_assoc, List.append_assoc] at h
      have hmembers := (List.cons.inj h).2
      -- Quoted items can be told apart whatever they hold.
      have htold : ∀ x ∈ xs, True ∧
          ToldApart (fun _ => True) (fun item => Text.quoted item.toList) ']' x := by
        intro x _
        refine ⟨trivial, fun y _ r s _ _ hxy => ?_⟩
        obtain ⟨htext, hrs⟩ := Text.quoted_append_inj hxy
        exact ⟨String.toList_inj.1 htext, hrs⟩
      have hquote : ∀ x : String, True → ∃ c ∈ (Text.quoted x.toList).head?, c ≠ ']' :=
        fun x _ => ⟨'"', rfl, by decide⟩
      obtain ⟨rfl, hrs⟩ := members_append_inj (by decide) hquote htold (fun _ _ => trivial) hmembers
      exact ⟨rfl, hrs⟩

/-- Lookups are words. -/
private theorem isKeyChar_of_mem_lookup {x : Comparator} {c : Char} (h : c ∈ x.lookup.toList) :
    isKeyChar c = true := by
  have hall : x.lookup.toList.all isKeyChar = true := by cases x <;> rfl
  exact List.all_eq_true.1 hall c h

private theorem Comparator.lookup_injective {x y : Comparator} (h : x.lookup = y.lookup) : x = y := by
  simpa using congrArg ofLookup? h

/-! ## Filters -/

namespace Filter

/-- The filters right below the root. -/
def children : Filter → List Filter
  | .compare _ => []
  | .all fs => fs
  | .any fs => fs
  | .not f => [f]

mutual

/-- What holds of a filter when it holds of its children holds of every filter. -/
theorem of_children {P : Filter → Prop} (h : ∀ f, (∀ g ∈ f.children, P g) → P f) : (f : Filter) → P f
  | .compare x => h (.compare x) nofun
  | .all fs => h (.all fs) (forall_mem_of_children h fs)
  | .any fs => h (.any fs) (forall_mem_of_children h fs)
  | .not f => h (.not f) (List.forall_mem_singleton.2 (of_children h f))

theorem forall_mem_of_children {P : Filter → Prop} (h : ∀ f, (∀ g ∈ f.children, P g) → P f) :
    (fs : List Filter) → ∀ f ∈ fs, P f
  | [] => nofun
  | f :: fs => List.forall_mem_cons.2 ⟨of_children h f, forall_mem_of_children h fs⟩

end

/-- The fields of all comparisons are words of letters, digits and underscores. -/
def FieldsAreWords (f : Filter) : Prop :=
  ∀ x ∈ f.comparisons, x.field ≠ "" ∧ ∀ c ∈ x.field.toList, Suffix.IsKeyLetter c

/-- The comparisons of a child are among those of the filter. -/
private theorem FieldsAreWords.of_mem_children {f g : Filter} (hf : f.FieldsAreWords)
    (hg : g ∈ f.children) :
    g.FieldsAreWords := by
  intro x hx
  apply hf x
  cases f with
  | compare y => exact nomatch hg
  | all fs =>
    rw [comparisons, comparisonsOf_eq_flatMap]
    exact List.mem_flatMap.2 ⟨g, hg, hx⟩
  | any fs =>
    rw [comparisons, comparisonsOf_eq_flatMap]
    exact List.mem_flatMap.2 ⟨g, hg, hx⟩
  | not f =>
    rw [comparisons]
    exact List.mem_singleton.1 hg ▸ hx

/-- How a filter is shown: as a comparison, as the word `true`, or as a word with members. -/
inductive Form where
  | comparison (comparison : Comparison)
  | everything
  | group (word : String) (members : List Filter)

/-- The form in which a filter is shown. -/
def form : Filter → Form
  | .compare x => .comparison x
  | .all [] => .everything
  | .all (f :: fs) => .group "and" (f :: fs)
  | .any fs => .group "or" fs
  | .not f => .group "not" [f]

/-- The word that a form begins with. -/
def Form.word : Form → List Char
  | comparison x => x.field.toList
  | everything => "true".toList
  | group word _ => word.toList

/-- What follows the word. -/
def Form.body : Form → List Char
  | comparison x => ' ' :: (x.comparator.lookup.toList ++ ' ' :: x.value.displayChars)
  | everything => []
  | group _ members => '(' :: (List.intercalate [',', ' '] (members.map displayChars) ++ [')'])

/-- The text of a filter is the word of its form and what follows that. -/
theorem displayChars_eq_form (f : Filter) : f.displayChars = f.form.word ++ f.form.body := by
  cases f with
  | compare x =>
    rw [displayChars, Comparison.displayChars, List.append_assoc]
    rfl
  | all fs =>
    cases fs with
    | nil => rfl
    | cons f fs =>
      rw [displayChars, displayGroup_eq_intercalate]
      · rfl
      · exact List.cons_ne_nil f fs
  | any fs =>
    rw [displayChars, displayGroup_eq_intercalate]
    rfl
  | not f =>
    rw [displayChars, form, Form.body, List.map_singleton, List.intercalate_singleton]
    rfl

/-- The filter that is shown in a form. -/
def Form.filter : Form → Filter
  | comparison x => .compare x
  | everything => .all []
  | group "and" members => .all members
  | group "or" members => .any members
  | group _ [f] => .not f
  | group _ members => .all members

private theorem filter_form (f : Filter) : f.form.filter = f := by
  cases f with
  | all fs => cases fs <;> rfl
  | compare | any | not => rfl

/-- The members of a group are the children. -/
private theorem eq_children_of_form {f : Filter} {word : String} {members : List Filter}
    (h : f.form = .group word members) : members = f.children := by
  unfold form at h
  split at h <;> simp_all [children]

/-- The word of a form has no other characters than fields may have. -/
private theorem FieldsAreWords.isKeyChar_of_mem_word {f : Filter} (hf : f.FieldsAreWords) :
    ∀ c ∈ f.form.word, isKeyChar c := by
  rw [← List.all_eq_true]
  cases f with
  | compare x =>
    rw [List.all_eq_true]
    intro c hc
    rw [Suffix.isKeyChar_iff]
    exact (hf x (by simp [comparisons])).2 c hc
  | all fs => cases fs <;> rfl
  | any fs => rfl
  | not f => rfl

/-- The character that tells the kind of a form, behind its word. -/
def Form.mark : Form → Option Char
  | comparison _ => some ' '
  | everything => none
  | group _ _ => some '('

/-- What follows the word begins with the mark, or the text of the filter ends here. -/
theorem Form.head?_body (x : Form) {r : List Char} (hr : EndsMember ')' r) :
    (x.body ++ r).head?.filter (fun c => c ≠ ',' ∧ c ≠ ')') = x.mark := by
  cases x with
  | comparison | group => rfl
  | everything =>
    cases r with
    | nil => rfl
    | cons c r => rcases hr c rfl with rfl | rfl <;> rfl

/-- It does not continue the word. -/
theorem Form.isKeyChar_head?_body (x : Form) {r : List Char} (hr : EndsMember ')' r) :
    ∀ c ∈ (x.body ++ r).head?, isKeyChar c = false := by
  intro c hc
  cases x with
  | comparison | group =>
    cases hc
    rfl
  | everything => rcases hr c hc with rfl | rfl <;> rfl

/-- Every form begins with a word that is not empty. -/
private theorem FieldsAreWords.word_ne_nil {f : Filter} (hf : f.FieldsAreWords) : f.form.word ≠ [] := by
  cases f with
  | compare x =>
    have hfield : x.field ≠ "" := (hf x (by simp [comparisons])).1
    exact fun hnil => hfield (String.toList_eq_nil_iff.1 hnil)
  | all fs => cases fs <;> (rw [form, Form.word]; decide)
  | any fs => rw [form, Form.word]; decide
  | not f => rw [form, Form.word]; decide

/-- No filter begins with the bracket that closes a group. -/
private theorem FieldsAreWords.exists_mem_head?_displayChars {f : Filter} (hf : f.FieldsAreWords) :
    ∃ c ∈ f.displayChars.head?, c ≠ ')' := by
  -- It begins with its word, and the bracket is no letter of a word.
  obtain ⟨c, cs, hword⟩ := List.exists_cons_of_ne_nil hf.word_ne_nil
  have hc : isKeyChar c := hf.isKeyChar_of_mem_word c (hword ▸ List.mem_cons_self ..)
  refine ⟨c, ?_, ?_⟩
  · rw [displayChars_eq_form, hword]
    rfl
  · rintro rfl
    exact nomatch hc

/-- Behind its field a comparison can be told from a text that begins with it. -/
private theorem comparison_append_inj {x y : Comparison} (hfield : x.field.toList = y.field.toList)
    {r s : List Char} (h : (Form.comparison x).body ++ r = (Form.comparison y).body ++ s) :
    x = y ∧ r = s := by
  -- The lookup is a word that a space ends, and the value can be told apart behind it.
  have hspace : ∀ cs : List Char, ∀ c ∈ (' ' :: cs).head?, isKeyChar c = false := by
    rintro cs c ⟨⟩
    rfl
  rw [Form.body, Form.body, List.cons_append, List.cons_append, List.append_assoc,
    List.append_assoc] at h
  obtain ⟨hlookup, hvalue⟩ := append_inj_of_words (fun c => isKeyChar_of_mem_lookup)
    (fun c => isKeyChar_of_mem_lookup) (hspace _) (hspace _) (List.cons.inj h).2
  obtain ⟨hv, hrs⟩ := Value.displayChars_append_inj (List.cons.inj hvalue).2
  have hcomparator := Comparator.lookup_injective (String.toList_inj.1 hlookup)
  refine ⟨?_, hrs⟩
  cases x
  cases y
  simp_all [String.toList_inj]

/-- A filter can be told from others by a text that begins with it. -/
theorem toldApart (f : Filter) (hf : f.FieldsAreWords) :
    ToldApart FieldsAreWords displayChars ')' f := by
  induction f using of_children with
  | h f ih =>
    intro g hg r s hr hs h
    rw [displayChars_eq_form, displayChars_eq_form, List.append_assoc, List.append_assoc] at h
    -- The words end at the same character, and with equal words the marks behind them are the same.
    obtain ⟨hword, hbody⟩ := append_inj_of_words hf.isKeyChar_of_mem_word hg.isKeyChar_of_mem_word
      (f.form.isKeyChar_head?_body hr) (g.form.isKeyChar_head?_body hs) h
    have hmark : f.form.mark = g.form.mark := by
      rw [← f.form.head?_body hr, ← g.form.head?_body hs, hbody]
    suffices hform : f.form = g.form ∧ r = s by
      rw [← f.filter_form, ← g.filter_form, hform.1]
      exact ⟨rfl, hform.2⟩
    cases hfform : f.form <;> cases hgform : g.form <;> rw [hfform, hgform] at hword hbody hmark
    case comparison.comparison x y =>
      obtain ⟨rfl, hrs⟩ := comparison_append_inj hword hbody
      exact ⟨rfl, hrs⟩
    case everything.everything => exact ⟨rfl, hbody⟩
    case group.group word members word' members' =>
      obtain rfl : word = word' := String.toList_inj.1 hword
      obtain rfl := eq_children_of_form hfform
      obtain rfl := eq_children_of_form hgform
      rw [Form.body, Form.body, List.cons_append, List.cons_append, List.append_assoc,
        List.append_assoc] at hbody
      -- The members are the children, of which the induction hypothesis tells each apart.
      have htold : ∀ x ∈ f.children,
          x.FieldsAreWords ∧ ToldApart FieldsAreWords displayChars ')' x :=
        fun x hx => ⟨hf.of_mem_children hx, ih x hx (hf.of_mem_children hx)⟩
      obtain ⟨hmembers, hrs⟩ := members_append_inj (by decide)
        (fun _ hx => hx.exists_mem_head?_displayChars) htold (fun _ hx => hg.of_mem_children hx)
        (List.cons.inj hbody).2
      exact ⟨by rw [hmembers], hrs⟩
    -- Forms of two kinds have different marks.
    all_goals exact nomatch hmark

/-- Filters with one text are equal: a text with words for fields is the text of one filter only. -/
theorem display_eq_iff {f g : Filter} (hf : f.FieldsAreWords) (hg : g.FieldsAreWords) :
    f.display = g.display ↔ f = g := by
  constructor
  · intro h
    have hchars : f.displayChars = g.displayChars := String.ofList_injective h
    -- At the end of the text nothing follows either filter.
    have hends : EndsMember ')' [] := nofun
    exact (f.toldApart hf g hg [] [] hends hends (congrArg (· ++ []) hchars)).1
  · intro h
    rw [h]

/-- Two values in one list. -/
def twoValues : Filter :=
  .any [.compare ⟨"kind", .isIn, .list ["a", "b"]⟩, .all []]

/-- One value that has the comma and the quotes in it. -/
def oneValue : Filter :=
  .any [.compare ⟨"kind", .isIn, .list ["a\", \"b"]⟩, .all []]

/-- The statement at a list of two values and one that is shown almost like it. -/
theorem display_eq_iff_one_value :
    twoValues.FieldsAreWords ∧ oneValue.FieldsAreWords ∧
      (twoValues.display = oneValue.display ↔ twoValues = oneValue) ∧
      twoValues.display ≠ oneValue.display := by
  have hkind : ("kind" : String) ≠ "" ∧ ∀ c ∈ ("kind" : String).toList, Suffix.IsKeyLetter c :=
    (Suffix.isKey_toList_iff "kind").1 (by decide)
  have htwo : twoValues.FieldsAreWords := List.forall_mem_singleton.2 hkind
  have hone : oneValue.FieldsAreWords := List.forall_mem_singleton.2 hkind
  have hiff := display_eq_iff htwo hone
  exact ⟨htwo, hone, hiff, fun h => absurd (hiff.1 h) (by decide)⟩

/-- A field that is no word can take over what stands behind it. -/
example : (Filter.any [.compare ⟨"a in [], b", .exact, .single "c"⟩]).display =
    (Filter.any [.compare ⟨"a", .isIn, .list []⟩, .compare ⟨"b", .exact, .single "c"⟩]).display := by
  decide

end Filter

end FilterQuery
