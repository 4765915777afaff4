/-! # Reading positions in YAML texts

A cursor is what remains of a text and where that lies: YAML gives meaning to lines and columns.
Before a text is read its line breaks are made uniform, so a break is a line feed or one of the two
separator characters, which also count as text.
-/

namespace FilterQuery.Yaml

/-- A character that ends a line. -/
def isBreak (c : Char) : Bool :=
  c == '\n' || c == '\u2028' || c == '\u2029'

/-- A space or a tab. -/
def isBlank (c : Char) : Bool :=
  c == ' ' || c == '\t'

/-- The characters of anchor names, tag handles and directive names. -/
def isNameChar (c : Char) : Bool :=
  c.isAlphanum || c == '_' || c == '-'

/-- The characters that open, close or separate within flow collections. -/
def isFlowIndicator (c : Char) : Bool :=
  c == ',' || c == '[' || c == ']' || c == '\x7b' || c == '\x7d'

/-- The text ends here, or goes on with a blank or a break. -/
def endsWord : List Char → Bool
  | [] => true
  | c :: _ => isBlank c || isBreak c

/-- The characters that may stand in a YAML text. -/
def isAllowed (c : Char) : Bool :=
  let n := c.toNat
  n == 0x09 || n == 0x0A || n == 0x0D || (0x20 ≤ n && n ≤ 0x7E) || n == 0x85 ||
    (0xA0 ≤ n && n ≤ 0xFFFD) || 0x10000 ≤ n

/-- Writes every line break as a line feed, the two separator characters aside. -/
def uniformBreaks : List Char → List Char
  | [] => []
  | '\r' :: '\n' :: cs => '\n' :: uniformBreaks cs
  | c :: cs => (if c = '\r' ∨ c = '\x85' then '\n' else c) :: uniformBreaks cs

/-- The marker of a document's start or end stands at the beginning of the text. -/
def startsWithMarker : List Char → Bool
  | '-' :: '-' :: '-' :: cs => endsWord cs
  | '.' :: '.' :: '.' :: cs => endsWord cs
  | _ => false

/-- What remains of a text, and where that lies. -/
structure Cursor where
  rest : List Char
  /-- Characters passed. -/
  index : Nat
  /-- Lines passed. -/
  line : Nat
  /-- Characters passed in this line. -/
  column : Nat

namespace Cursor

/-- The beginning of a text. -/
def start (s : List Char) : Cursor := ⟨s, 0, 0, 0⟩

/-- Moves to a later part of the line. -/
def along (c : Cursor) (rest : List Char) : Cursor :=
  let n := c.rest.length - rest.length
  ⟨rest, c.index + n, c.line, c.column + n⟩

/-- Moves past characters of the line, as many as asked for. -/
def skip (c : Cursor) (n : Nat) : Cursor :=
  ⟨c.rest.drop n, c.index + n, c.line, c.column + n⟩

/-- Moves past one character, given what follows it. -/
def past (c : Cursor) (rest : List Char) : Cursor :=
  ⟨rest, c.index + 1, c.line, c.column + 1⟩

/-- Moves past a break, given what follows it. -/
def pastBreak (c : Cursor) (rest : List Char) : Cursor :=
  ⟨rest, c.index + 1, c.line + 1, 0⟩

/-- Takes the longest row of characters of a kind without breaks. -/
def takeWhile (c : Cursor) (p : Char → Bool) : List Char × Cursor :=
  let taken := c.rest.takeWhile p
  (taken, c.skip taken.length)

/-- The next character. -/
def peek? (c : Cursor) : Option Char := c.rest.head?

end Cursor

/-! ## Gaps

Inside a scalar that spans lines, the blanks and breaks between two pieces of content are folded. -/

/-- The blanks and breaks since the last piece of content, in reverse. -/
inductive Gap where
  /-- Blanks within a line. -/
  | blanks (read : List Char)
  /-- The first break, unless it was escaped, and the later ones. The blanks around them do not
  count. -/
  | breaks (first : List Char) (more : List Char)

namespace Gap

/-- No gap. -/
def none : Gap := blanks []

/-- A gap with another break. -/
def addBreak (c : Char) : Gap → Gap
  | blanks _ => breaks [c] []
  | breaks first more => breaks first (c :: more)

/-- A gap with another blank. -/
def addBlank (c : Char) : Gap → Gap
  | blanks read => blanks (c :: read)
  | gap => gap

/-- A gap that spans lines. -/
def hasBreak : Gap → Bool
  | blanks _ => false
  | breaks _ _ => true

/-- What a gap contributes to the content, in reverse: a single line feed becomes a space, and of
several the first is dropped. -/
def folded : Gap → List Char
  | blanks read => read
  | breaks ['\n'] [] => [' ']
  | breaks ['\n'] more => more
  | breaks first more => more ++ first

end Gap

end FilterQuery.Yaml
