import FilterQuery.Json.Printer
import FilterQuery.Json.Token
import Mathlib.Tactic.SplitIfs

/-!
# Reading a JSON text in parts

The tokens of a JSON text are found one character at a time, so a text can be read up to any place and
on from there: the mode of the reader is all that the rest depends on. A part that begins and ends
between two tokens is a row of tokens wherever it stands, `SpelledBy`, and such parts are put together.

## Key results

- `Mode.run_append`, `Mode.reach_append`: reading on from the mode after the first part of a text
- `reach_stringChar`: a character of a string is read as what it was, escaped or not
- `SpelledBy.string`: a written string is one token
-/

namespace FilterQuery.Json.Token

/-! ## Parts of a text -/

/-- Reads the first part of a text: the tokens that are complete, and the mode after it. -/
def Mode.reach : Mode → List Char → Option (List Token × Mode)
  | mode, [] => some ([], mode)
  | mode, c :: cs => do
    let (tokens, mode) ← mode.step c
    let (rest, mode) ← mode.reach cs
    some (tokens ++ rest, mode)

/-- The second part of a text is read from the mode after the first. -/
theorem Mode.run_append {mode mode' : Mode} {cs : List Char} {tokens : List Token}
    (h : mode.reach cs = some (tokens, mode')) (ds : List Char) :
    mode.run (cs ++ ds) = (mode'.run ds).map (tokens ++ ·) := by
  -- The mode is generalized, for every character leads to another.
  induction cs generalizing mode tokens with
  | nil =>
    obtain ⟨rfl, rfl⟩ := Prod.mk.inj (Option.some.inj h)
    simp
  | cons c cs ih =>
    rw [reach] at h
    obtain ⟨⟨first, middle⟩, hstep, h⟩ := Option.bind_eq_some_iff.1 h
    obtain ⟨⟨rest, last⟩, hreach, h⟩ := Option.bind_eq_some_iff.1 h
    obtain ⟨rfl, rfl⟩ := Prod.mk.inj (Option.some.inj h)
    simp only [List.cons_append, run, hstep, bind, Option.bind_some, ih hreach]
    cases last.run ds with
    | none => rfl
    | some tokens => simp

/-- Two parts of a text that follow one another are one part. -/
theorem Mode.reach_append {mode middle last : Mode} {cs ds : List Char} {tokens rest : List Token}
    (h : mode.reach cs = some (tokens, middle)) (hrest : middle.reach ds = some (rest, last)) :
    mode.reach (cs ++ ds) = some (tokens ++ rest, last) := by
  -- As before, with a mode at the end in the place of tokens.
  induction cs generalizing mode tokens with
  | nil =>
    obtain ⟨rfl, rfl⟩ := Prod.mk.inj (Option.some.inj h)
    exact hrest
  | cons c cs ih =>
    rw [reach] at h
    obtain ⟨⟨first, next⟩, hstep, h⟩ := Option.bind_eq_some_iff.1 h
    obtain ⟨⟨more, end'⟩, hreach, h⟩ := Option.bind_eq_some_iff.1 h
    obtain ⟨rfl, rfl⟩ := Prod.mk.inj (Option.some.inj h)
    rw [List.cons_append, reach, hstep]
    simp only [bind, Option.bind_some, ih hreach, List.append_assoc]

/-- Characters that go on with a token are read without completing one. -/
theorem Mode.reach_continued {mode : List Char → Mode} {P : Char → Prop}
    (hstep : ∀ read c, P c → (mode read).step c = some ([], mode (c :: read))) {cs : List Char}
    (h : ∀ c ∈ cs, P c) (read : List Char) :
    (mode read).reach cs = some ([], mode (cs.reverse ++ read)) := by
  induction cs generalizing read with
  | nil => rfl
  | cons c cs ih =>
    rw [List.forall_mem_cons] at h
    simp only [reach, hstep read c h.1, bind, Option.bind_some, ih h.2]
    simp

/-! ## Strings -/

/-- A letter after a backslash is read as the character that it stands for. -/
private theorem reach_escaped {letter c : Char} (h : escaped? letter = some c) (read : List Char) :
    (Mode.text read).reach ['\\', letter] = some ([], .text (c :: read)) := by
  -- The letter `u` stands for no character of its own, but begins a code.
  have hletter : letter ≠ 'u' := by
    rintro rfl
    exact nomatch h
  simp [Mode.reach, Mode.step, hletter, h]

/-- A control character is read back from the four digits of its code. -/
private theorem reach_controlUnit {c : Char} (h : c < ' ') (read : List Char) :
    (Mode.text read).reach
        ['\\', 'u', '0', '0', Text.hexDigit (c.toNat / 16), Text.hexDigit (c.toNat % 16)] =
      some ([], .text (c :: read)) := by
  have hlt : c.toNat < 32 := h
  have hhigh : Text.hexValue? (Text.hexDigit (c.toNat / 16)) = some (c.toNat / 16) :=
    Text.hexValue?_hexDigit (by omega)
  have hlow : Text.hexValue? (Text.hexDigit (c.toNat % 16)) = some (c.toNat % 16) :=
    Text.hexValue?_hexDigit (by omega)
  have hzero : Text.hexValue? '0' = some 0 := rfl
  have hvalue : 16 * (c.toNat / 16) + c.toNat % 16 = c.toNat := Nat.div_add_mod _ _
  -- The code is below the surrogates, so the unit is a character on its own.
  have hunit : afterUnit read none c.toNat = some (.text (c :: read)) := by
    have hsurrogate : ¬ (0xD800 ≤ c.toNat ∧ c.toNat ≤ 0xDBFF) := by omega
    have htrail : ¬ (0xDC00 ≤ c.toNat ∧ c.toNat ≤ 0xDFFF) := by omega
    simp only [afterUnit, if_neg hsurrogate, if_neg htrail, Char.ofNat_toNat]
  simp [Mode.reach, Mode.step, hzero, hhigh, hlow, hvalue, hunit]

/-- A character of a string is read as what it was, whether it was escaped or not. -/
theorem reach_stringChar (c : Char) (read : List Char) :
    (Mode.text read).reach (stringChar c) = some ([], .text (c :: read)) := by
  unfold stringChar
  -- Seven characters have a letter of their own, the other control characters are written by code.
  split_ifs with hquote hbackslash hbackspace htab hline hfeed hreturn hcontrol
  · rw [hquote]; exact reach_escaped rfl read
  · rw [hbackslash]; exact reach_escaped rfl read
  · rw [hbackspace]; exact reach_escaped rfl read
  · rw [htab]; exact reach_escaped rfl read
  · rw [hline]; exact reach_escaped rfl read
  · rw [hfeed]; exact reach_escaped rfl read
  · rw [hreturn]; exact reach_escaped rfl read
  · exact reach_controlUnit hcontrol read
  · rw [Mode.reach, Mode.step, if_neg hquote, if_neg hbackslash, if_neg hcontrol]
    rfl

/-- The written characters of a string are read one by one, and kept in reverse. -/
private theorem reach_flatMap_stringChar (cs read : List Char) :
    (Mode.text read).reach (cs.flatMap stringChar) = some ([], .text (cs.reverse ++ read)) := by
  induction cs generalizing read with
  | nil => rfl
  | cons c cs ih =>
    rw [List.flatMap_cons, Mode.reach_append (reach_stringChar c read) (ih (c :: read))]
    simp

/-! ## Rows of tokens -/

/-- The characters are the tokens, with blanks around them or without: reading them begins and ends
    between two tokens. -/
def SpelledBy (tokens : List Token) (cs : List Char) : Prop :=
  Mode.between.reach cs = some (tokens, .between)

namespace SpelledBy

theorem nil : SpelledBy [] [] := rfl

/-- Tokens that stand one behind the other are spelled one behind the other. -/
theorem append {ts us : List Token} {cs ds : List Char} (h : SpelledBy ts cs) (h' : SpelledBy us ds) :
    SpelledBy (ts ++ us) (cs ++ ds) :=
  Mode.reach_append h h'

/-- A character that is a token on its own comes before others. -/
theorem cons {t : Token} {c : Char} {ts : List Token} {cs : List Char}
    (hc : start c = some ([t], .between)) (h : SpelledBy ts cs) : SpelledBy (t :: ts) (c :: cs) := by
  have hfirst : SpelledBy [t] [c] := by
    rw [SpelledBy, Mode.reach, Mode.step, hc]
    rfl
  exact hfirst.append h

/-- A blank comes before tokens. -/
theorem blank {c : Char} {ts : List Token} {cs : List Char} (hc : isBlank c) (h : SpelledBy ts cs) :
    SpelledBy ts (c :: cs) := by
  have hfirst : SpelledBy [] [c] := by
    rw [SpelledBy, Mode.reach, Mode.step, start, if_pos hc]
    rfl
  exact hfirst.append h

/-- A written string is one token. -/
theorem string (s : String) : SpelledBy [.string s] (stringChars s) := by
  -- The opening quote begins the text, the characters join it, and the closing quote completes the
  -- token.
  have hopen : Mode.between.reach ['"'] = some ([], .text []) := rfl
  have hclose : (Mode.text s.toList.reverse).reach ['"'] = some ([.string s], .between) := by
    simp [Mode.reach, Mode.step]
  have hbody := reach_flatMap_stringChar s.toList []
  rw [List.append_nil] at hbody
  exact Mode.reach_append (Mode.reach_append hopen hbody) hclose

/-- The tokens of a text that is spelled by them. -/
theorem ofChars?_eq {ts : List Token} {cs : List Char} (h : SpelledBy ts cs) :
    ofChars? cs = some ts := by
  have hrun := Mode.run_append h []
  rw [List.append_nil] at hrun
  rw [ofChars?, hrun]
  simp [Mode.run, Mode.finish]

end SpelledBy

end FilterQuery.Json.Token
