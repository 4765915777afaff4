/-! # Texts between separators

`pieces d s` cuts `s` at every `d`. Joining the pieces with `d` gives `s` back, and cutting
distributes over a separator:

* `intercalate_pieces`  the pieces of `s` joined with `d` are `s`
* `pieces_append_cons`  the pieces of `s ++ d :: t` are those of `s`, then those of `t`
* `pieces_of_notMem`    a text without `d` is its own only piece
* `pieces_intercalate`  texts without `d` that are joined with `d` are read back

`cut? d s` cuts at the first `d` only, `cut?_eq_some_iff`. What holds of single pieces, and of a text
behind a piece and a separator when it holds of the text, holds of all texts, `pieces_induction`.
-/

namespace FilterQuery.Text

/-- The texts before, between and after the separators `d`; there is always at least one. -/
def pieces (d : Char) : List Char → List (List Char)
  | [] => [[]]
  | c :: cs =>
    if c = d then [] :: pieces d cs
    else
      match pieces d cs with
      | [] => [[c]]
      | p :: ps => (c :: p) :: ps

/-- The pieces that hold at least one character. -/
def words (d : Char) (s : List Char) : List (List Char) :=
  (pieces d s).filter (· ≠ [])

/-- Cuts a text at the first `d`: what stands before it and what follows it. -/
def cut? (d : Char) : List Char → Option (List Char × List Char)
  | [] => none
  | c :: cs => if c = d then some ([], cs) else (cut? d cs).map fun (l, r) => (c :: l, r)

/-! ## The first separator -/

/-- A text without the separator cannot be cut. -/
theorem cut?_eq_none_iff {d : Char} {s : List Char} : cut? d s = none ↔ d ∉ s := by
  induction s with
  | nil => simp [cut?]
  | cons c cs ih =>
    by_cases h : c = d
    · simp [cut?, h]
    · simp [cut?, h, ih, Ne.symm h]

/-- A cut is at the first separator. -/
theorem cut?_eq_some_iff {d : Char} {s l r : List Char} :
    cut? d s = some (l, r) ↔ s = l ++ d :: r ∧ d ∉ l := by
  induction s generalizing l with
  | nil => simp [cut?]
  | cons c cs ih =>
    -- Either the cut is right here, and nothing stands before it, or it is further on.
    by_cases h : c = d
    · subst h
      cases l with
      | nil => simp [cut?, eq_comm]
      | cons e l =>
        simp only [cut?, if_true, Option.some.injEq, Prod.mk.injEq, List.cons_append,
          List.cons.injEq, List.mem_cons, not_or]
        constructor
        · rintro ⟨h, -⟩
          simp at h
        · rintro ⟨⟨rfl, -⟩, h, -⟩
          exact absurd rfl h
    · simp only [cut?, h, if_false, Option.map_eq_some_iff, Prod.mk.injEq, Prod.exists]
      constructor
      · rintro ⟨l', r', hc, rfl, rfl⟩
        obtain ⟨rfl, hl⟩ := ih.1 hc
        exact ⟨rfl, by simp [hl, Ne.symm h]⟩
      · rintro ⟨hs, hl⟩
        cases l with
        | nil =>
          simp only [List.nil_append, List.cons.injEq] at hs
          exact absurd hs.1 h
        | cons e l =>
          simp only [List.cons_append, List.cons.injEq] at hs
          exact ⟨l, r, ih.2 ⟨hs.2, fun hm => hl (List.mem_cons_of_mem _ hm)⟩, by simp [hs.1], rfl⟩

/-! ## All separators -/

/-- There is always a piece, if only an empty one. -/
theorem pieces_ne_nil (d : Char) (s : List Char) : pieces d s ≠ [] := by
  cases s with
  | nil => simp [pieces]
  | cons c cs =>
    rw [pieces]
    split
    · simp
    · split <;> simp

@[simp] theorem pieces_nil (d : Char) : pieces d [] = [[]] := rfl

@[simp] theorem pieces_cons_self (d : Char) (s : List Char) :
    pieces d (d :: s) = [] :: pieces d s := by
  simp [pieces]

/-- A text without the separator is its own only piece. -/
theorem pieces_of_notMem {d : Char} {s : List Char} (h : d ∉ s) : pieces d s = [s] := by
  induction s with
  | nil => rfl
  | cons c cs ih =>
    have hc : c ≠ d := fun hcd => h (by simp [hcd])
    simp [pieces, hc, ih fun hm => h (List.mem_cons_of_mem _ hm)]

/-- Cutting distributes over a separator. -/
theorem pieces_append_cons (d : Char) (s t : List Char) :
    pieces d (s ++ d :: t) = pieces d s ++ pieces d t := by
  induction s with
  | nil => simp
  | cons c cs ih =>
    -- A separator in front begins a new piece, any other character grows the first one.
    by_cases hc : c = d
    · simp [pieces, hc, ih]
    · cases hp : pieces d cs with
      | nil => exact absurd hp (pieces_ne_nil d cs)
      | cons p ps => simp [pieces, hc, ih, hp]

/-- What stands before the first separator is the first piece. -/
theorem pieces_append_cons_of_notMem {d : Char} {p : List Char} (hp : d ∉ p) (s : List Char) :
    pieces d (p ++ d :: s) = p :: pieces d s := by
  rw [pieces_append_cons, pieces_of_notMem hp, List.singleton_append]

/-- A text is a single piece, or a piece and a text around a separator. -/
@[elab_as_elim]
theorem pieces_induction (d : Char) {motive : List Char → Prop} (piece : ∀ p, d ∉ p → motive p)
    (join : ∀ p s, d ∉ p → motive s → motive (p ++ d :: s)) (s : List Char) : motive s :=
  match hcut : cut? d s with
  | none => piece s (cut?_eq_none_iff.1 hcut)
  | some (p, t) =>
    have hs : s = p ++ d :: t ∧ d ∉ p := cut?_eq_some_iff.1 hcut
    have hlt : t.length < s.length := by simp [hs.1]; omega
    hs.1 ▸ join p t hs.2 (pieces_induction d piece join t)
termination_by s.length

/-- No piece holds the separator. -/
theorem notMem_of_mem_pieces {d : Char} {s p : List Char} (h : p ∈ pieces d s) : d ∉ p := by
  induction s using pieces_induction d with
  | piece q hq =>
    rw [pieces_of_notMem hq, List.mem_singleton] at h
    rwa [h]
  | join q s hq ih =>
    rw [pieces_append_cons_of_notMem hq, List.mem_cons] at h
    rcases h with rfl | h
    · exact hq
    · exact ih h

/-- Joining the pieces with the separator gives the text back. -/
theorem intercalate_pieces (d : Char) (s : List Char) :
    List.intercalate [d] (pieces d s) = s := by
  induction s using pieces_induction d with
  | piece p hp => rw [pieces_of_notMem hp, List.intercalate_singleton]
  | join p s hp ih =>
    rw [pieces_append_cons_of_notMem hp]
    cases hs : pieces d s with
    | nil => exact absurd hs (pieces_ne_nil d s)
    | cons q qs =>
      rw [List.intercalate_cons_cons, ← hs, ih, List.append_assoc, List.singleton_append]

/-- Words are read on either side of a separator independently. -/
theorem words_append_cons (d : Char) (s t : List Char) :
    words d (s ++ d :: t) = words d s ++ words d t := by
  simp [words, pieces_append_cons]

/-- Separators in front of a text are no words. -/
theorem words_replicate_append (d : Char) (n : Nat) (s : List Char) :
    words d (List.replicate n d ++ s) = words d s := by
  induction n with
  | zero => rfl
  | succ n ih => simpa [words, List.replicate_succ] using ih

/-- Separators behind a text are no words. -/
theorem words_append_replicate (d : Char) (n : Nat) (s : List Char) :
    words d (s ++ List.replicate n d) = words d s := by
  cases n with
  | zero => simp
  | succ n =>
    have hnil : words d (List.replicate n d) = [] := by
      simpa [words] using words_replicate_append d n []
    rw [List.replicate_succ, words_append_cons, hnil, List.append_nil]

/-- A text without the separator that is not empty is its own only word. -/
theorem words_of_notMem {d : Char} {s : List Char} (h : d ∉ s) (hs : s ≠ []) :
    words d s = [s] := by
  simp [words, pieces_of_notMem h, hs]

/-- A character that is in no part, nor between them, is not in the joined text. -/
theorem notMem_intercalate {c : Char} {s : List Char} {xs : List (List Char)} (hs : c ∉ s)
    (hxs : ∀ x ∈ xs, c ∉ x) : c ∉ List.intercalate s xs := by
  induction xs with
  | nil => simp
  | cons x xs ih =>
    have hx : c ∉ x := hxs x (List.mem_cons_self ..)
    cases xs with
    | nil => rwa [List.intercalate_singleton]
    | cons y ys =>
      rw [List.intercalate_cons_cons, List.mem_append, List.mem_append, not_or, not_or]
      exact ⟨⟨hx, hs⟩, ih fun z hz => hxs z (List.mem_cons_of_mem x hz)⟩

/-- Texts joined with a separator that none of them holds are read back. -/
theorem pieces_intercalate {d : Char} {ps : List (List Char)} (hne : ps ≠ [])
    (h : ∀ p ∈ ps, d ∉ p) : pieces d (List.intercalate [d] ps) = ps := by
  induction ps with
  | nil => exact absurd rfl hne
  | cons p ps ih =>
    have hp : d ∉ p := h p (List.mem_cons_self ..)
    -- A separator stands behind a piece only if another piece follows.
    cases ps with
    | nil => rw [List.intercalate_singleton, pieces_of_notMem hp]
    | cons q qs =>
      rw [List.intercalate_cons_cons, List.append_assoc, List.singleton_append,
        pieces_append_cons_of_notMem hp,
        ih (List.cons_ne_nil q qs) fun r hr => h r (List.mem_cons_of_mem p hr)]

/-- Words joined with the separator are read back. -/
theorem words_intercalate {d : Char} {ws : List (List Char)} (h : ∀ w ∈ ws, d ∉ w ∧ w ≠ []) :
    words d (List.intercalate [d] ws) = ws := by
  cases ws with
  | nil => simp [words]
  | cons w ws =>
    rw [words, pieces_intercalate (List.cons_ne_nil w ws) fun v hv => (h v hv).1,
      List.filter_eq_self]
    exact fun v hv => by simpa using (h v hv).2

end FilterQuery.Text
