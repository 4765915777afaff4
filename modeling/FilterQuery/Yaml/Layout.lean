import FilterQuery.Yaml.Token.Block
import FilterQuery.Yaml.Token.Plain
import FilterQuery.Yaml.Token.Property

/-! # Layout

Cutting a YAML text into tokens. A layout is how far the text has been cut: the open indentations,
the open flow collections, and the places where a key may have begun, which only a later colon
decides. Such a place is a slot among the tokens that stays empty unless the colon comes in the same
line and within 1024 characters.
-/

namespace FilterQuery.Yaml

/-- A place where a key may have begun. -/
structure PossibleKey where
  /-- A colon must come. -/
  required : Bool
  /-- The slot that the key's tokens will fill. -/
  slot : Nat
  start : Cursor

/-- How far a text has been cut into tokens. -/
structure Layout where
  cursor : Cursor
  /-- The columns of the open block collections, innermost first. -/
  indents : List Nat
  /-- The possible key of the innermost flow collection, or of the block around all of them. -/
  possibleKey : Option PossibleKey
  /-- The possible keys further out, innermost first: one for each open flow collection. -/
  outerKeys : List (Option PossibleKey)
  /-- A key may begin here. -/
  keyAllowed : Bool
  /-- The tokens so far; a slot holds none or several. -/
  slots : Array (List Token)

namespace Layout

/-- The layout before any of a text is cut. -/
def start (s : List Char) : Layout := ⟨.start s, [], none, [], true, #[]⟩

/-- A flow collection is open. -/
def inFlow (l : Layout) : Bool := !l.outerKeys.isEmpty

/-- The column at which a line would continue the innermost block collection. -/
def continuation (l : Layout) : Nat :=
  match l.indents with
  | [] => 0
  | n :: _ => n + 1

/-- Adds a token. -/
def push (l : Layout) (t : Token) : Layout :=
  { l with slots := l.slots.push [t] }

/-! ## Between tokens -/

/-- Moves past blanks, comments and breaks. Tabs do not count as blanks where a key may begin. A byte
order mark may begin a line, and takes a column of it. -/
def blanksFrom (inFlow keyAllowed inComment : Bool) (pos : Cursor) : List Char → Bool × Cursor
  | [] => (keyAllowed, { pos with rest := [] })
  | c :: cs =>
    let here := { pos with rest := c :: cs }
    -- In a block every line may begin a key.
    if isBreak c then
      blanksFrom inFlow (keyAllowed || !inFlow) false (here.pastBreak cs) cs
    else if inComment || c == ' ' || (c == '\t' && (inFlow || !keyAllowed)) ||
        (c == '\ufeff' && here.column == 0) then
      blanksFrom inFlow keyAllowed inComment (here.past cs) cs
    else if c == '#' then blanksFrom inFlow keyAllowed true (here.past cs) cs
    else (keyAllowed, here)

/-- Moves to the next token. -/
def toNextToken (l : Layout) : Layout :=
  let (keyAllowed, cursor) := blanksFrom l.inFlow l.keyAllowed false l.cursor l.cursor.rest
  { l with keyAllowed, cursor }

/-! ## Keys -/

/-- The colon of a possible key can still come. -/
def PossibleKey.isFresh (k : PossibleKey) (c : Cursor) : Bool :=
  k.start.line == c.line && c.index ≤ k.start.index + 1024

/-- Gives up a possible key whose colon can no longer come; a required key then fails. -/
def dropStale (c : Cursor) : Option PossibleKey → Option (Option PossibleKey)
  | none => some none
  | some k =>
    if PossibleKey.isFresh k c then some (some k) else if k.required then none else some none

/-- Gives up all possible keys whose colon can no longer come. -/
def expireKeys (l : Layout) : Option Layout := do
  let possibleKey ← dropStale l.cursor l.possibleKey
  let outerKeys ← l.outerKeys.mapM (dropStale l.cursor)
  some { l with possibleKey, outerKeys }

/-- Gives up the innermost possible key; a required key then fails. -/
def dropKey (l : Layout) : Option Layout :=
  match l.possibleKey with
  | some k => if k.required then none else some { l with possibleKey := none }
  | none => some l

/-- Notes that a key may begin here, if one may. In a block it must be a key if it stands where the
collection's other keys stand. -/
def noteKey (l : Layout) : Option Layout :=
  if l.keyAllowed then do
    -- Only a key can stand in the column of the other keys.
    let required := !l.inFlow && l.indents.head? == some l.cursor.column
    let l ← l.dropKey
    some { l with
      possibleKey := some ⟨required, l.slots.size, l.cursor⟩
      slots := l.slots.push [] }
  else some l

/-! ## Indentation -/

/-- Opens a block collection at a column that is deeper than those open; its token goes into a slot
before those that are there already. -/
def openBlock (l : Layout) (column : Nat) (slot : Nat) (t : Token) : Layout :=
  if !l.inFlow && l.indents.head?.all (· < column) then
    { l with
      indents := column :: l.indents
      slots := l.slots.modify slot (t :: ·) }
  else l

/-- Opens a block collection at the cursor. -/
def openBlockHere (l : Layout) (t : Token) : Layout :=
  let slot := l.slots.size
  { l with slots := l.slots.push [] }.openBlock l.cursor.column slot t

/-- Closes the innermost block collections while `deeper` holds of their column. -/
def closeWhile (deeper : Nat → Bool) (l : Layout) : Layout :=
  if l.inFlow then l
  else
    { l with
      indents := l.indents.dropWhile deeper
      -- One end for each collection that is closed.
      slots := l.slots.push ((l.indents.takeWhile deeper).map fun _ => .blockEnd) }

/-- Closes all block collections and gives up the possible key. -/
def closeAll (l : Layout) : Option Layout := do
  let l ← (l.closeWhile fun _ => true).dropKey
  some { l with keyAllowed := false }

/-! ## Tokens -/

/-- Adds a token that is read by `read`. -/
def readWith (l : Layout) (read : Cursor → Option (Token × Cursor)) : Option Layout := do
  let (t, cursor) ← read l.cursor
  some ({ l with cursor }.push t)

/-- Adds a token of a fixed number of characters. -/
def pushMark (l : Layout) (length : Nat) (t : Token) : Layout :=
  { l with cursor := l.cursor.skip length }.push t

/-- A directive, at the beginning of a line. -/
def directive (l : Layout) : Option Layout := do
  (← l.closeAll).readWith directive?

/-- The start or end of a document. -/
def documentMarker (l : Layout) (t : Token) : Option Layout := do
  some ((← l.closeAll).pushMark 3 t)

/-- The beginning of a flow collection, which may be a key as a whole. -/
def openFlow (l : Layout) (t : Token) : Option Layout := do
  let l ← l.noteKey
  let l := { l with
    outerKeys := l.possibleKey :: l.outerKeys
    possibleKey := none
    keyAllowed := true }
  some (l.pushMark 1 t)

/-- The end of a flow collection. -/
def closeFlow (l : Layout) (t : Token) : Option Layout := do
  let l ← l.dropKey
  let l := match l.outerKeys with
    | [] => l
    | k :: ks => { l with possibleKey := k, outerKeys := ks }
  some ({ l with keyAllowed := false }.pushMark 1 t)

/-- A comma in a flow collection. -/
def comma (l : Layout) : Option Layout := do
  let l ← l.dropKey
  some ({ l with keyAllowed := true }.pushMark 1 .comma)

/-- The dash before an item of a block sequence. -/
def item (l : Layout) : Option Layout := do
  if !l.inFlow && !l.keyAllowed then none
  else
    let l ← (l.openBlockHere .blockSequence).dropKey
    some ({ l with keyAllowed := true }.pushMark 1 .item)

/-- The question mark before a key. -/
def key (l : Layout) : Option Layout := do
  if !l.inFlow && !l.keyAllowed then none
  else
    let l ← (l.openBlockHere .blockMapping).dropKey
    some ({ l with keyAllowed := !l.inFlow }.pushMark 1 .key)

/-- The colon before a value: it makes a key of a possible key, or follows one after a question
mark. -/
def value (l : Layout) : Option Layout :=
  match l.possibleKey with
  | some k =>
    -- The key has been read already: its mark, and the beginning of a mapping if this is the first
    -- key of one, go before it.
    let l := { l with
      slots := l.slots.modify k.slot (.key :: ·)
      possibleKey := none
      keyAllowed := false }
    some ((l.openBlock k.start.column k.slot .blockMapping).pushMark 1 .value)
  | none =>
    if l.inFlow then some ({ l with keyAllowed := false }.pushMark 1 .value)
    -- Nothing stands before the colon: the key is empty.
    else if l.keyAllowed then
      some ({ l.openBlockHere .blockMapping with keyAllowed := true }.pushMark 1 .value)
    else none

/-- A token that may begin a key: an anchor, an alias, a tag or a scalar. -/
def content (l : Layout) (read : Cursor → Option (Token × Cursor)) : Option Layout := do
  let l ← l.noteKey
  { l with keyAllowed := false }.readWith read

/-- A scalar without quotes. A key may begin after it if it ends with a line. -/
def plain (l : Layout) : Option Layout := do
  let l ← l.noteKey
  let s ← plainScalar? l.inFlow l.continuation l.cursor
  some ({ l with cursor := s.cursor, keyAllowed := s.endsLine }.push (.scalar true s.text))

/-- A block scalar, after which a line begins. -/
def block (l : Layout) : Option Layout := do
  let l ← l.dropKey
  let (text, cursor) ← blockScalar? l.continuation l.cursor
  some ({ l with cursor, keyAllowed := true }.push (.scalar false text))

/-- The characters that do not begin a scalar without quotes. -/
def isIndicator (c : Char) : Bool :=
  isFlowIndicator c || c == '-' || c == '?' || c == ':' || c == '#' || c == '&' || c == '*' ||
    c == '!' || c == '|' || c == '>' || c == '\x27' || c == '"' || c == '%' || c == '@' ||
    c == '\x60'

/-- A scalar without quotes begins here. Three indicators may begin one before a character that is
no blank. -/
def startsPlain (inFlow : Bool) (c : Char) (cs : List Char) : Bool :=
  !(isBlank c || isIndicator c) || (c == '-' && !(cs.head?.any isBlank)) ||
    (!inFlow && (c == '?' || c == ':') && !endsWord cs)

/-- Adds the token that begins with the character `c`. -/
def token (l : Layout) (c : Char) (cs : List Char) : Option Layout :=
  let atMargin := l.cursor.column == 0
  let indicates := l.inFlow || endsWord cs
  if atMargin && c == '%' then l.directive
  else if atMargin && c == '-' && startsWithMarker l.cursor.rest then
    l.documentMarker .documentStart
  else if atMargin && startsWithMarker l.cursor.rest then l.documentMarker .documentEnd
  else if c = '[' then l.openFlow .flowSequence
  else if c = '\x7b' then l.openFlow .flowMapping
  else if c = ']' then l.closeFlow .flowSequenceEnd
  else if c = '\x7d' then l.closeFlow .flowMappingEnd
  else if c = ',' then l.comma
  else if c == '-' && endsWord cs then l.item
  else if c == '?' && indicates then l.key
  else if c == ':' && indicates then l.value
  else if c = '*' then l.content fun c => (anchorName? c).map fun (n, c) => (.reference n, c)
  else if c = '&' then l.content fun c => (anchorName? c).map fun (n, c) => (.anchor n, c)
  else if c = '!' then l.content (tag? l.inFlow)
  else if (c == '|' || c == '>') && !l.inFlow then l.block
  else if c == '\x27' || c == '"' then
    l.content fun c => (quotedScalar? c).map fun (s, c) => (.scalar false s, c)
  else if startsPlain l.inFlow c cs then l.plain
  else none

/-- Cuts the rest of a text. Every token takes at least one character. -/
def run (l : Layout) : Option (List Token) := do
  let next ← l.toNextToken.expireKeys
  let column := next.cursor.column
  match next.cursor.rest with
  | [] =>
    -- The end of the text ends every block collection.
    let last ← next.closeAll
    some last.slots.toList.flatten
  | c :: cs =>
    let after ← (next.closeWhile (column < ·)).token c cs
    -- The test always holds; it is what makes the recursion end.
    if after.cursor.rest.length < l.cursor.rest.length then after.run else none
termination_by l.cursor.rest.length

end Layout

/-- The tokens of a YAML text. -/
def Token.ofChars? (s : List Char) : Option (List Token) :=
  if s.all isAllowed then (Layout.start (uniformBreaks s)).run else none

end FilterQuery.Yaml
