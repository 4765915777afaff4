/-! # White space

The characters that may surround a list item or a sort key without being part of it, and the
functions that remove them from the ends of a text.

* `trim_eq_self_iff`  a text is its own trim exactly when neither end is a space
* `trim_trim`         trimming twice is trimming once
* `trim_between_spaces`  spaces at the two ends of a text make no difference to its trim
-/

namespace FilterQuery.Text

/-- The characters with the Unicode property White_Space, twenty-five in all. -/
def isSpace (c : Char) : Bool :=
  let n := c.toNat
  (0x09 ≤ n && n ≤ 0x0D) || n == 0x20 || n == 0x85 || n == 0xA0 || n == 0x1680 ||
    (0x2000 ≤ n && n ≤ 0x200A) || n == 0x2028 || n == 0x2029 || n == 0x202F || n == 0x205F ||
    n == 0x3000

/-- A text without the spaces it begins with. -/
def trimStart : List Char → List Char
  | [] => []
  | c :: cs => if isSpace c then trimStart cs else c :: cs

/-- A text without the spaces it ends with. -/
def trimEnd : List Char → List Char
  | [] => []
  | c :: cs =>
    match trimEnd cs with
    | [] => if isSpace c then [] else [c]
    | d :: ds => c :: d :: ds

/-- A text without the spaces at its two ends. -/
def trim (s : List Char) : List Char :=
  trimEnd (trimStart s)

/-- Every character that the standard library calls white space is a space. -/
theorem isSpace_of_isWhitespace {c : Char} (h : c.isWhitespace) : isSpace c := by
  simp only [Char.isWhitespace, Bool.or_eq_true, decide_eq_true_eq] at h
  rcases h with ((rfl | rfl) | rfl) | rfl <;> decide

@[simp] theorem trimStart_nil : trimStart [] = [] := rfl

@[simp] theorem trimEnd_nil : trimEnd [] = [] := rfl

theorem trimStart_cons (c : Char) (cs : List Char) :
    trimStart (c :: cs) = if isSpace c then trimStart cs else c :: cs := rfl

/-- A first character stays unless it is a space and nothing of the rest is left. -/
theorem trimEnd_cons (c : Char) (cs : List Char) :
    trimEnd (c :: cs) = if trimEnd cs = [] ∧ isSpace c then [] else c :: trimEnd cs := by
  rw [trimEnd]
  cases trimEnd cs <;> simp

/-- What `trimStart` leaves does not begin with a space. -/
theorem not_isSpace_head_trimStart {s : List Char} {c : Char} (h : (trimStart s).head? = some c) :
    isSpace c = false := by
  induction s with
  | nil => simp at h
  | cons d ds ih =>
    rw [trimStart_cons] at h
    split at h
    · exact ih h
    · rename_i hd
      simp only [List.head?_cons, Option.some.injEq] at h
      simpa [h] using hd

/-- A text keeps its beginning when it does not begin with a space. -/
theorem trimStart_eq_self_iff {s : List Char} :
    trimStart s = s ↔ ∀ c, s.head? = some c → isSpace c = false := by
  constructor
  · intro h c hc
    exact not_isSpace_head_trimStart (s := s) (by rw [h]; exact hc)
  · intro h
    cases s with
    | nil => rfl
    | cons c cs => simp [trimStart_cons, h c rfl]

/-- A text keeps its end when it does not end with a space. -/
theorem trimEnd_eq_self_iff {s : List Char} :
    trimEnd s = s ↔ ∀ c, s.getLast? = some c → isSpace c = false := by
  induction s with
  | nil => simp
  | cons d ds ih =>
    rw [trimEnd_cons]
    cases ds with
    | nil => by_cases h : isSpace d <;> simp [h]
    | cons e es =>
      -- With a character behind it the first one stays, whether or not it is a space.
      have key : (if trimEnd (e :: es) = [] ∧ isSpace d = true then []
          else d :: trimEnd (e :: es)) = d :: e :: es ↔ trimEnd (e :: es) = e :: es := by
        by_cases h : trimEnd (e :: es) = [] <;> by_cases hd : isSpace d <;> simp [h, hd]
      rw [key, ih]
      simp

/-- What `trimEnd` leaves does not end with a space. -/
theorem not_isSpace_getLast_trimEnd {s : List Char} {c : Char}
    (h : (trimEnd s).getLast? = some c) : isSpace c = false := by
  induction s with
  | nil => simp at h
  | cons d ds ih =>
    rw [trimEnd_cons] at h
    split at h
    · simp at h
    · rename_i hd
      cases he : trimEnd ds with
      | nil =>
        rw [he] at h
        simp only [List.getLast?_singleton, Option.some.injEq] at h
        simpa [he, h] using hd
      | cons e es =>
        rw [he] at h ih
        exact ih (by simpa using h)

@[simp] theorem trimEnd_trimEnd (s : List Char) : trimEnd (trimEnd s) = trimEnd s :=
  trimEnd_eq_self_iff.2 fun _ h => not_isSpace_getLast_trimEnd h

@[simp] theorem trimStart_trimStart (s : List Char) : trimStart (trimStart s) = trimStart s :=
  trimStart_eq_self_iff.2 fun _ h => not_isSpace_head_trimStart h

/-- Unless nothing is left, trimming the end keeps the first character. -/
theorem head?_trimEnd {s : List Char} (h : trimEnd s ≠ []) : (trimEnd s).head? = s.head? := by
  cases s with
  | nil => rfl
  | cons c cs =>
    rw [trimEnd_cons] at h ⊢
    split
    · rename_i hc
      simp [hc] at h
    · rfl

/-- A text is its own trim exactly when neither its first nor its last character is a space. -/
theorem trim_eq_self_iff {s : List Char} :
    trim s = s ↔ (∀ c, s.head? = some c → isSpace c = false) ∧
      (∀ c, s.getLast? = some c → isSpace c = false) := by
  rw [← trimStart_eq_self_iff, ← trimEnd_eq_self_iff]
  constructor
  · intro h
    have hend : trimEnd s = s := by
      rw [← h]
      exact trimEnd_trimEnd _
    refine ⟨trimStart_eq_self_iff.2 fun c hc => ?_, hend⟩
    -- A text with a first character is not empty, so that trimming the end keeps this character.
    have hne : trimEnd (trimStart s) ≠ [] := by
      rw [← trim, h]
      rintro rfl
      simp at hc
    refine not_isSpace_head_trimStart (s := s) ?_
    rw [← head?_trimEnd hne, ← trim, h, hc]
  · rintro ⟨hs, he⟩
    rw [trim, hs, he]

@[simp] theorem trim_trim (s : List Char) : trim (trim s) = trim s := by
  rw [trim_eq_self_iff]
  refine ⟨fun c hc => ?_, fun c hc => not_isSpace_getLast_trimEnd hc⟩
  have hne : trimEnd (trimStart s) ≠ [] := by
    intro hnil
    rw [trim, hnil] at hc
    simp at hc
  refine not_isSpace_head_trimStart (s := s) ?_
  rw [← head?_trimEnd hne]
  exact hc

/-- Spaces in front are trimmed off. -/
theorem trimStart_spaces_append {spaces : List Char} (h : ∀ c ∈ spaces, isSpace c)
    (s : List Char) : trimStart (spaces ++ s) = trimStart s := by
  induction spaces with
  | nil => rfl
  | cons c cs ih =>
    rw [List.cons_append, trimStart_cons, if_pos (h c (List.mem_cons_self ..))]
    exact ih fun d hd => h d (List.mem_cons_of_mem c hd)

/-- Of spaces alone nothing is left. -/
theorem trimEnd_eq_nil_of_spaces {s : List Char} (h : ∀ c ∈ s, isSpace c) : trimEnd s = [] := by
  induction s with
  | nil => rfl
  | cons c cs ih =>
    have hcs : trimEnd cs = [] := ih fun d hd => h d (List.mem_cons_of_mem c hd)
    rw [trimEnd_cons, if_pos ⟨hcs, h c (List.mem_cons_self ..)⟩]

/-- Spaces behind a text are trimmed off. -/
theorem trimEnd_append_spaces {spaces : List Char} (h : ∀ c ∈ spaces, isSpace c)
    (s : List Char) : trimEnd (s ++ spaces) = trimEnd s := by
  induction s with
  | nil => exact trimEnd_eq_nil_of_spaces h
  | cons c cs ih => rw [List.cons_append, trimEnd_cons, trimEnd_cons, ih]

/-- Spaces at the two ends of a text make no difference to its trim. -/
theorem trim_between_spaces {before after : List Char} (hbefore : ∀ c ∈ before, isSpace c)
    (hafter : ∀ c ∈ after, isSpace c) (s : List Char) :
    trim (before ++ s ++ after) = trim s := by
  rw [List.append_assoc, trim, trim, trimStart_spaces_append hbefore]
  -- The spaces behind the text are at its front as well when it has no other characters.
  induction s with
  | nil =>
    have hnil : trimStart after = [] := by simpa using trimStart_spaces_append hafter []
    rw [List.nil_append, hnil, trimStart_nil]
  | cons c cs ih =>
    rw [List.cons_append, trimStart_cons, trimStart_cons]
    split
    · exact ih
    · exact trimEnd_append_spaces hafter (c :: cs)

/-- Trimming the beginning adds no character. -/
theorem mem_of_mem_trimStart {c : Char} {s : List Char} (h : c ∈ trimStart s) : c ∈ s := by
  induction s with
  | nil => exact h
  | cons d ds ih =>
    rw [trimStart_cons] at h
    split at h
    · exact List.mem_cons_of_mem _ (ih h)
    · exact h

/-- Trimming the end adds no character. -/
theorem mem_of_mem_trimEnd {c : Char} {s : List Char} (h : c ∈ trimEnd s) : c ∈ s := by
  induction s with
  | nil => exact h
  | cons d ds ih =>
    rw [trimEnd_cons] at h
    split at h
    · simp at h
    · rcases List.mem_cons.1 h with rfl | h
      · exact List.mem_cons_self
      · exact List.mem_cons_of_mem _ (ih h)

/-- Trimming adds no character. -/
theorem mem_of_mem_trim {c : Char} {s : List Char} (h : c ∈ trim s) : c ∈ s :=
  mem_of_mem_trimStart (mem_of_mem_trimEnd h)

end FilterQuery.Text
