import FilterQuery.Json.Parser
import FilterQuery.Proofs.IntegerLiterals
import FilterQuery.Proofs.TokenReading

/-!
# One value in a JSON text

What happens to a document when one value in its text is written differently? The value stands at the
end of a path of member names, with text before and behind it. This file reads such a text for all
values at once: the states of the reader are functions of the value, `Holding`, and every token either
stops all of them or takes them to states of the same kind. At the end the document holds the value at
the path, `HoldsAt`, unless a later member has taken its place; then the value is of no consequence.

## Key results

- `Token.run_literal`, `Token.run_quoted`: an integer literal and a quoted text among other text
- `Expecting.step_within`: a token under enclosing arrays and objects
- `Expecting.holding_step`, `Expecting.holding_foldlM`: what one token and all tokens preserve
- `AwaitsValue.exists_reading`: the documents of a text with different values in one place
-/

namespace FilterQuery

/-! ## Tokens around a place -/

namespace Json.Token

/-! ### Integer literals -/

/-- A digit between two tokens begins a number. -/
private theorem start_of_isDigit {c : Char} (h : c.isDigit) : start c = some ([], .number [c]) := by
  have hne : ∀ d : Char, d.isDigit = false → c ≠ d := by
    rintro d hd rfl
    exact absurd h (by simp [hd])
  simp [start, isBlank, hne ' ' rfl, hne '\t' rfl, hne '\n' rfl, hne '\r' rfl, hne '[' rfl, hne ']' rfl,
    hne '\x7b' rfl, hne '\x7d' rfl, hne ',' rfl, hne ':' rfl, hne '"' rfl, h]

private theorem step_number {c : Char} (h : isNumberChar c) (read : List Char) :
    (Mode.number read).step c = some ([], .number (c :: read)) := by
  rw [Mode.step, if_pos h]

private theorem isNumberChar_of_mem {l : IntegerLiteral} {c : Char} (h : c ∈ l.chars) :
    isNumberChar c := by
  rcases l.mem_chars h with rfl | hdigit
  · rfl
  · simp [isNumberChar, hdigit]

/-- The characters of an integer literal are one number that may go on. -/
private theorem reach_literal (l : IntegerLiteral) :
    Mode.between.reach l.chars = some ([], .number l.chars.reverse) := by
  obtain ⟨c, cs, hchars⟩ := List.exists_cons_of_ne_nil l.chars_ne_nil
  have hfirst : start c = some ([], .number [c]) := by
    rcases l.mem_chars (hchars ▸ List.mem_cons_self ..) with rfl | hdigit
    · rfl
    · exact start_of_isDigit hdigit
  -- After the first character, a sign or a digit, only digits follow.
  have hrest : ∀ d ∈ cs, isNumberChar d :=
    fun d hd => isNumberChar_of_mem (l := l) (hchars ▸ List.mem_cons_of_mem c hd)
  have hreach := Mode.reach_continued (fun read d hd => step_number hd read) hrest [c]
  rw [hchars, List.reverse_cons, Mode.reach]
  simp only [Mode.step, hfirst, bind, Option.bind_some, hreach, List.nil_append]

/-- A number ends before a character of another kind. -/
private theorem run_number {after : List Char} (h : ∀ c ∈ after.head?, isNumberChar c = false)
    (read : List Char) :
    (Mode.number read).run after =
      (Number.ofLiteral? read.reverse).bind fun n => (Mode.between.run after).map (.number n :: ·) := by
  -- The number is finished by the end of the text or by the next character, which then begins a
  -- token of its own.
  cases after with
  | nil =>
    rw [Mode.run, Mode.run, Mode.finish, Mode.finish, Option.map_eq_bind]
    rfl
  | cons c cs =>
    have hc : isNumberChar c = false := h c rfl
    simp only [Mode.run, Mode.step, hc, Bool.false_eq_true, if_false, Mode.finish]
    cases Number.ofLiteral? read.reverse with
    | none => rfl
    | some n =>
      simp only [Option.map_some, bind, Option.bind_some]
      cases start c with
      | none => rfl
      | some next =>
        obtain ⟨tokens, mode⟩ := next
        simp only [Option.bind_some]
        cases mode.run cs <;> simp

/-- An integer literal in front of a character of another kind is one token. -/
theorem run_literal (l : IntegerLiteral) {after : List Char}
    (h : ∀ c ∈ after.head?, isNumberChar c = false) :
    Mode.between.run (l.chars ++ after) =
      (Number.ofLiteral? l.chars).bind fun n => (Mode.between.run after).map (.number n :: ·) := by
  rw [Mode.run_append (reach_literal l), run_number h, List.reverse_reverse]
  simp

/-! ### Quoted texts -/

/-- The character stands for itself between quotes. -/
def IsPlain (c : Char) : Prop :=
  c ≠ '"' ∧ c ≠ '\\' ∧ ¬ c < ' '

private theorem step_text {c : Char} (h : IsPlain c) (read : List Char) :
    (Mode.text read).step c = some ([], .text (c :: read)) := by
  obtain ⟨hquote, hbackslash, hcontrol⟩ := h
  rw [Mode.step, if_neg hquote, if_neg hbackslash, if_neg hcontrol]

/-- The characters of an integer literal are plain, so the literal may stand between quotes. -/
theorem isPlain_of_mem {l : IntegerLiteral} {c : Char} (h : c ∈ l.chars) : IsPlain c := by
  rcases l.mem_chars h with rfl | hdigit
  · exact ⟨by decide, by decide, by decide⟩
  · -- The codes of digits lie between 48 and 57, apart from those of quote, backslash and controls.
    have hrange := IntegerLiteral.toNat_of_isDigit hdigit
    refine ⟨?_, ?_, ?_⟩
    · rintro rfl
      exact absurd hrange (by decide)
    · rintro rfl
      exact absurd hrange (by decide)
    · intro hcontrol
      have hlt : c.toNat < 32 := hcontrol
      omega

/-- A plain text between quotes is one token. -/
theorem run_quoted {cs : List Char} (h : ∀ c ∈ cs, IsPlain c) (after : List Char) :
    Mode.between.run ('"' :: (cs ++ '"' :: after)) =
      (Mode.between.run after).map (.string (String.ofList cs) :: ·) := by
  have hquote : start '"' = some ([], .text []) := rfl
  have hreach := Mode.reach_continued (fun read c hc => step_text hc read) h []
  have hopen : Mode.between.run ('"' :: (cs ++ '"' :: after)) =
      (Mode.text []).run (cs ++ '"' :: after) := by
    rw [Mode.run, Mode.step, hquote]
    simp [bind]
  rw [hopen, Mode.run_append hreach, List.append_nil, Mode.run, Mode.step, if_pos rfl,
    List.reverse_reverse]
  cases hafter : Mode.between.run after <;> simp [bind, hafter]

end Json.Token

/-! ## States under enclosing frames -/

namespace Json.Expecting

/-- The state inside further arrays and objects. A complete document becomes a value of theirs. -/
def within (bottom : List Frame) : Expecting → Expecting
  | value below => value (below ++ bottom)
  | firstItem below => firstItem (below ++ bottom)
  | moreItems items below => moreItems items (below ++ bottom)
  | firstName below => firstName (below ++ bottom)
  | name members below => name members (below ++ bottom)
  | colon members key below => colon members key (below ++ bottom)
  | moreMembers members below => moreMembers members (below ++ bottom)
  | nothing v => afterValue v bottom

/-- A complete value goes to the innermost frame, whatever is around that. -/
private theorem within_afterValue (v : Json) (below bottom : List Frame) :
    (afterValue v below).within bottom = afterValue v (below ++ bottom) := by
  cases below with
  | nil => rfl
  | cons f below => cases f <;> rfl

/-- The depth that is left for a value does not change when frames and allowed depth grow together. -/
private theorem beginValue_within (depth : Nat) (below bottom : List Frame) (t : Token) :
    beginValue (depth + bottom.length) (below ++ bottom) t =
      (beginValue depth below t).map (within bottom) := by
  have hdepth : (below ++ bottom).length < depth + bottom.length ↔ below.length < depth := by
    rw [List.length_append]
    omega
  cases t with
  | null | bool | number | string => simp [beginValue, within_afterValue]
  | openArray | openObject =>
    simp only [beginValue, hdepth]
    split <;> rfl
  | closeArray | closeObject | comma | colon => rfl

/-- A token inside further arrays and objects does what it does without them, as long as the document
    without them is not complete. -/
theorem step_within (depth : Nat) {x : Expecting} (hx : ∀ v, x ≠ nothing v) (bottom : List Frame)
    (t : Token) :
    step (depth + bottom.length) (x.within bottom) t = (step depth x t).map (within bottom) := by
  -- One case for each state. Only closing an array or object, and a complete value, look below the
  -- frames that are there.
  cases x with
  | value below => exact beginValue_within depth below bottom t
  | firstItem below =>
    have hbegin := beginValue_within depth (.array [] :: below) bottom t
    cases t with
    | closeArray => exact congrArg some (within_afterValue _ below bottom).symm
    | _ => exact hbegin
  | moreItems items below =>
    cases t with
    | closeArray => exact congrArg some (within_afterValue _ below bottom).symm
    | _ => rfl
  | firstName below =>
    cases t with
    | closeObject => exact congrArg some (within_afterValue _ below bottom).symm
    | _ => rfl
  | name members below => cases t <;> rfl
  | colon members key below => cases t <;> rfl
  | moreMembers members below =>
    cases t with
    | closeObject => exact congrArg some (within_afterValue _ below bottom).symm
    | _ => rfl
  | nothing v => exact absurd rfl (hx v)

end Json.Expecting

/-! ## A member among others -/

namespace Pairs

variable {α β : Type} [DecidableEq α]

/-- A value that is put where another was put takes its place. -/
private theorem put_put_self (k : α) (v w : β) (es : List (α × β)) :
    put k w (put k v es) = put k w es := by
  -- The entries before the first one with the key are passed by both times.
  induction es with
  | nil => simp [put]
  | cons e es ih =>
    obtain ⟨j, u⟩ := e
    by_cases hj : j = k
    · simp [put, hj]
    · simp [put, hj, ih]

/-- A member that is put behind another leaves the place of that to any value. -/
private theorem put_put_of_ne {k j : α} (h : j ≠ k) (v v' w : β) (es : List (α × β)) :
    put j w (put k v es) = put k v (put j w (put k v' es)) := by
  induction es with
  | nil => simp [put, Ne.symm h]
  | cons e es ih =>
    obtain ⟨i, u⟩ := e
    -- The first entry may have either key; behind it the entries are treated alike.
    by_cases hk : i = k
    · subst hk
      simp [put, Ne.symm h]
    · by_cases hj : i = j
      · subst hj
        simp [put, hk, put_put_self]
      · simp [put, hk, hj, ih]

end Pairs

namespace Json

/-- A document that holds a value at the end of a path of member names, as a function of the value. -/
inductive HoldsAt : List String → (Json → Json) → Prop where
  | here : HoldsAt [] fun v => v
  | member {path : List String} {D : Json → Json} (name : String) (members : List (String × Json))
    (h : HoldsAt path D) : HoldsAt (name :: path) fun v => .object (Pairs.put name (D v) members)

/-- The frames of objects that enclose a value, each with the name of the member that is read. -/
def enclosing (outer : List (List (String × Json) × String)) : List Frame :=
  outer.map fun (members, key) => .object members key

/-- A path under enclosing objects, innermost first. -/
def pathUnder : List (List (String × Json) × String) → List String → List String
  | [], path => path
  | (_, key) :: outer, path => pathUnder outer (key :: path)

private theorem length_pathUnder (outer : List (List (String × Json) × String)) (path : List String) :
    (pathUnder outer path).length = outer.length + path.length := by
  -- The path is generalized: it grows at its front while objects are left.
  induction outer generalizing path with
  | nil => simp [pathUnder]
  | cons frame outer ih =>
    rw [pathUnder, ih, List.length_cons, List.length_cons]
    omega

/-- The results do not depend on the value in whether there is one, and are of a kind. -/
def Uniformly {α : Type} (P : (Json → α) → Prop) (R : Json → Option α) : Prop :=
  (∀ v, R v = none) ∨ ∃ X, P X ∧ ∀ v, R v = some (X v)

namespace Expecting

variable {depth : Nat} {path : List String} {outer : List (List (String × Json) × String)}

/-- The members of an open object that hold the value, as functions of it. -/
inductive Open (path : List String) (outer : List (List (String × Json) × String)) :
    (Json → List (String × Json)) → Prop where
  | intro {name : String} {suffix : List String} {D : Json → Json} (members : List (String × Json))
    (hD : HoldsAt suffix D) (hpath : pathUnder outer (name :: suffix) = path) :
    Open path outer fun v => Pairs.put name (D v) members

/-- States of the reader as functions of a value that was read before: the value stands in an object
    that is open, or in the complete document, or it has been replaced. -/
inductive Holding (path : List String) : (Json → Expecting) → Prop where
  /-- Another member of the object is being read. -/
  | inside {outer : List (List (String × Json) × String)} {M : Json → List (String × Json)}
    (hM : Open path outer M) {x : Expecting} (hx : ∀ v, x ≠ nothing v) (key : String) :
    Holding path fun v => x.within (.object (M v) key :: enclosing outer)
  | moreMembers {outer : List (List (String × Json) × String)} {M : Json → List (String × Json)}
    (hM : Open path outer M) : Holding path fun v => .moreMembers (M v) (enclosing outer)
  | name {outer : List (List (String × Json) × String)} {M : Json → List (String × Json)}
    (hM : Open path outer M) : Holding path fun v => .name (M v) (enclosing outer)
  | colon {outer : List (List (String × Json) × String)} {M : Json → List (String × Json)}
    (hM : Open path outer M) (key : String) :
    Holding path fun v => .colon (M v) key (enclosing outer)
  | nothing {D : Json → Json} (hD : HoldsAt path D) : Holding path fun v => .nothing (D v)
  /-- A later member has taken the place. -/
  | replaced (x : Expecting) : Holding path fun _ => x

/-- No more objects are open than the path has names. -/
private theorem Open.length_lt {M : Json → List (String × Json)} (hM : Open path outer M) :
    outer.length < path.length := by
  cases hM with
  | intro _ _ hpath =>
    rw [← hpath, length_pathUnder, List.length_cons]
    omega

/-- A further member joins those that hold the value, or takes its place. -/
theorem Open.holding_put {M : Json → List (String × Json)} (hM : Open path outer M) (key : String)
    (w : Json) : Holding path fun v => .moreMembers (Pairs.put key w (M v)) (enclosing outer) := by
  cases hM with
  | @intro name suffix D members hD hpath =>
    -- A member of the same name takes the place of the value, any other stands beside it.
    by_cases hkey : key = name
    · subst hkey
      simp only [Pairs.put_put_self]
      exact .replaced _
    · -- Any value keeps the place of the one that is put last, here the null.
      have hput : ∀ v, Pairs.put key w (Pairs.put name (D v) members) =
          Pairs.put name (D v) (Pairs.put key w (Pairs.put name .null members)) :=
        fun v => Pairs.put_put_of_ne hkey (D v) .null w members
      simp only [hput]
      exact .moreMembers (.intro _ hD hpath)

/-- An object that holds the value is a member of the one around it, or the document. -/
theorem Open.holding_close {M : Json → List (String × Json)} (hM : Open path outer M) :
    Holding path fun v => afterValue (.object (M v)) (enclosing outer) := by
  cases hM with
  | @intro name suffix D members hD hpath =>
    have hobject : HoldsAt (name :: suffix) fun v => .object (Pairs.put name (D v) members) :=
      .member name members hD
    -- The outermost object is the document.
    cases outer with
    | nil =>
      subst hpath
      exact .nothing hobject
    | cons frame outer =>
      obtain ⟨around, key⟩ := frame
      exact .moreMembers (.intro around hobject hpath)

/-- One token stops the reading whatever the value is, or for no value. -/
theorem holding_step (hdepth : path.length ≤ depth) {X : Json → Expecting} (hX : Holding path X)
    (t : Token) : Uniformly (Holding path) fun v => step depth (X v) t := by
  cases hX with
  | @inside outer M hM x hx key =>
    -- Inside the member the reader has what is left of the depth.
    have hlength := hM.length_lt
    obtain ⟨left, rfl⟩ : ∃ left, depth = left + (outer.length + 1) :=
      Nat.exists_eq_add_of_le' (by omega)
    have hstep : ∀ v,
        step (left + (outer.length + 1)) (x.within (.object (M v) key :: enclosing outer)) t =
          (step left x t).map (within (.object (M v) key :: enclosing outer)) := by
      intro v
      have hbottom : (Frame.object (M v) key :: enclosing outer).length = outer.length + 1 := by
        simp [enclosing]
      have hwithin := step_within left hx (.object (M v) key :: enclosing outer) t
      rwa [hbottom] at hwithin
    -- What the token does inside is the same for all values, as none of them is seen there.
    cases hy : step left x t with
    | none =>
      simp only [hy, Option.map_none] at hstep
      exact .inl hstep
    | some y =>
      simp only [hy, Option.map_some] at hstep
      refine .inr ⟨fun v => y.within (.object (M v) key :: enclosing outer), ?_, hstep⟩
      by_cases hcomplete : ∃ w, y = nothing w
      · obtain ⟨w, rfl⟩ := hcomplete
        exact hM.holding_put key w
      · exact .inside hM (fun w hw => hcomplete ⟨w, hw⟩) key
  -- In the other states the value is in an object that the reader is in; the token sees its place,
  -- never the value.
  | moreMembers hM =>
    cases t with
    | comma => exact .inr ⟨_, .name hM, fun _ => rfl⟩
    | closeObject => exact .inr ⟨_, hM.holding_close, fun _ => rfl⟩
    | _ => exact .inl fun _ => rfl
  | name hM =>
    cases t with
    | string key => exact .inr ⟨_, .colon hM key, fun _ => rfl⟩
    | _ => exact .inl fun _ => rfl
  | colon hM key =>
    cases t with
    | colon =>
      have hx : ∀ v, value [] ≠ nothing v := nofun
      exact .inr ⟨_, .inside hM hx key, fun _ => rfl⟩
    | _ => exact .inl fun _ => rfl
  | nothing hD => exact .inl fun _ => rfl
  | replaced x =>
    cases hy : step depth x t with
    | none => exact .inl fun _ => hy
    | some y => exact .inr ⟨_, .replaced y, fun _ => hy⟩

/-- A row of tokens does to a state with a hole what it does to every value there. -/
theorem holding_foldlM (hdepth : path.length ≤ depth) {X : Json → Expecting} (hX : Holding path X)
    (tokens : List Token) :
    Uniformly (Holding path) fun v => tokens.foldlM (step depth) (X v) := by
  -- The state is generalized as a function of the value.
  induction tokens generalizing X with
  | nil => exact .inr ⟨X, hX, fun _ => rfl⟩
  | cons t tokens ih =>
    simp only [List.foldlM_cons]
    rcases holding_step hdepth hX t with hnone | ⟨Y, hY, hstep⟩
    · simp only [hnone]
      exact .inl fun _ => rfl
    · simp only [hstep]
      exact ih hY

end Expecting

/-! ## The documents of a text -/

/-- Documents as functions of a value: they hold it at the path, or the value has been replaced. -/
inductive Reading (path : List String) : (Json → Json) → Prop where
  | holds {D : Json → Json} (hD : HoldsAt path D) : Reading path D
  | replaced (doc : Json) : Reading path fun _ => doc

/-- Whether a state that holds the value is the end of a document does not depend on the value. -/
theorem Expecting.Holding.reading {path : List String} {X : Json → Expecting} (hX : Holding path X) :
    Uniformly (Reading path) fun v => (X v).document? := by
  cases hX with
  | nothing hD => exact .inr ⟨_, .holds hD, fun _ => rfl⟩
  | replaced x =>
    cases hx : x.document? with
    | none => exact .inl fun _ => hx
    | some doc => exact .inr ⟨_, .replaced doc, fun _ => hx⟩
  | @inside outer M hM x hx key =>
    -- Inside a member the document is open for every value.
    refine .inl fun v => ?_
    cases x with
    | nothing w => exact absurd rfl (hx w)
    | _ => rfl
  | moreMembers | name | colon => exact .inl fun _ => rfl

/-- The document that tokens complete. -/
def Expecting.complete? (x : Expecting) (tokens : List Token) : Option Json :=
  (tokens.foldlM (step maxDepth) x).bind document?

/-- Tokens that complete a document for one value complete it for all. -/
private theorem Expecting.Holding.complete {path : List String} (hdepth : path.length ≤ maxDepth)
    {X : Json → Expecting} (hX : Holding path X) (tokens : List Token) :
    Uniformly (Reading path) fun v => (X v).complete? tokens := by
  simp only [complete?]
  rcases holding_foldlM hdepth hX tokens with hnone | ⟨Y, hY, hsome⟩
  · exact .inl fun v => by simp only [hnone, Option.bind_none]
  · simpa only [hsome, Option.bind_some] using hY.reading

/-- Behind the text a value is expected, that of the member at the path: the reader is between two
    tokens, and in the objects that the path leads through. -/
inductive AwaitsValue (before : String) (path : List String) : Prop where
  | intro {tokens : List Token} {members : List (String × Json)} {key : String}
    {outer : List (List (String × Json) × String)}
    (hreach : Token.Mode.between.reach before.toList = some (tokens, .between))
    (hstate : tokens.foldlM (Expecting.step maxDepth) (.value []) =
      some (.value (.object members key :: enclosing outer)))
    (hpath : pathUnder outer [key] = path) : AwaitsValue before path

/-- The second part of a text is read from the state that the first part has led to. -/
private theorem parse?_append {before s : String} {cs : List Char} {tokens : List Token} {x : Expecting}
    (hreach : Token.Mode.between.reach before.toList = some (tokens, .between))
    (hstate : tokens.foldlM (Expecting.step maxDepth) (.value []) = some x)
    (hs : s.toList = before.toList ++ cs) :
    parse? s = (Token.Mode.between.run cs).bind x.complete? := by
  rw [parse?, parseWithin?, hs, Token.ofChars?, Token.Mode.run_append hreach]
  cases Token.Mode.between.run cs with
  | none => rfl
  | some rest =>
    simp only [Option.map_some, Option.bind_some, ofTokens?, List.foldlM_append, hstate, bind,
      Expecting.complete?]

/-- The documents of a text in which one value is written in different ways. -/
theorem AwaitsValue.exists_reading {before : String} {path : List String}
    (h : AwaitsValue before path) (hdepth : path.length ≤ maxDepth) (after : String) :
    ∃ R : Json → Option Json, Uniformly (Reading path) R ∧
      (∀ s : String, (∀ c ∈ s.toList, Token.IsPlain c) →
        parse? (before ++ ("\"" ++ s ++ "\"") ++ after) = R (.string s)) ∧
      ∀ l : IntegerLiteral, (∀ c ∈ after.toList.head?, Token.isNumberChar c = false) →
        parse? (before ++ l.text ++ after) =
          (Number.ofLiteral? l.chars).bind fun n => R (.number n) := by
  obtain @⟨tokens, members, key, outer, hreach, hstate, hpath⟩ := h
  -- The value joins the innermost open object as its member.
  have hholding : Expecting.Holding path fun v =>
      .moreMembers (Pairs.put key v members) (enclosing outer) :=
    .moreMembers (.intro members .here hpath)
  refine ⟨fun v => (Token.Mode.between.run after.toList).bind
    (Expecting.complete? (.moreMembers (Pairs.put key v members) (enclosing outer))), ?_,
    fun s hplain => ?_, fun l hafter => ?_⟩
  · -- The text behind has the same tokens whatever stands before it.
    cases Token.Mode.between.run after.toList with
    | none => exact .inl fun _ => rfl
    | some tokens => exact hholding.complete hdepth tokens
  · have hchars : (before ++ ("\"" ++ s ++ "\"") ++ after).toList =
        before.toList ++ '"' :: (s.toList ++ '"' :: after.toList) := by
      simp
    rw [parse?_append hreach hstate hchars, Token.run_quoted hplain, String.ofList_toList,
      Option.bind_map]
    rfl
  · have hchars : (before ++ l.text ++ after).toList = before.toList ++ (l.chars ++ after.toList) := by
      simp [IntegerLiteral.text]
    rw [parse?_append hreach hstate hchars, Token.run_literal l hafter, Option.bind_assoc]
    cases Number.ofLiteral? l.chars with
    | none => rfl
    | some n =>
      rw [Option.bind_some, Option.bind_some, Option.bind_map]
      rfl

end Json

end FilterQuery
