import FilterQuery.Text.Utf8
import FilterQuery.Yaml.Token.Quoted
import FilterQuery.Yaml.Token.Basic

/-! # Anchors, tags and directives

An anchor or an alias is a name after `&` or `*`. A tag is a handle and a shorthand, or a full name
between angles after `!`. A directive is a line that begins with `%` and gives the version of YAML or
the meaning of a handle.
-/

namespace FilterQuery.Yaml

/-- The characters that may follow an anchor without a blank. -/
def isAfterAnchor (c : Char) : Bool :=
  c == '?' || c == ':' || c == ',' || c == ']' || c == '\x7d' || c == '%' || c == '@' ||
    c == '\x60'

/-- Reads the name of an anchor or an alias, after its indicator. -/
def anchorName? (c : Cursor) : Option (List Char × Cursor) :=
  let (name, c) := (c.skip 1).takeWhile isNameChar
  let ended : Bool := match c.rest with
    | [] => true
    | d :: _ => endsWord c.rest || isAfterAnchor d
  if name ≠ [] ∧ ended then some (name, c) else none

/-! ## Tags -/

/-- The characters that tags consist of; the last three only between angles. -/
def isTagChar (full : Bool) (c : Char) : Bool :=
  isNameChar c || c == ';' || c == '/' || c == '?' || c == ':' || c == '@' || c == '&' ||
    c == '=' || c == '+' || c == '$' || c == '.' || c == '%' || c == '!' || c == '~' ||
    c == '*' || c == '\x27' || c == '(' || c == ')' ||
    (full && (c == ',' || c == '[' || c == ']'))

/-- How many bytes follow the first byte of a character, by that byte alone. -/
def bytesAfter? (n : Nat) : Option Nat :=
  if n < 0x80 then some 0
  else if 0xC0 ≤ n ∧ n ≤ 0xDF then some 1
  else if 0xE0 ≤ n ∧ n ≤ 0xEF then some 2
  else if 0xF0 ≤ n ∧ n ≤ 0xF7 then some 3
  else none

/-- The bytes that a row of characters stands for. Bytes after percent signs come in rows whose first
byte says how many follow, without a character between them; `owed` bytes of a row are still to come.
Such a row need not be a character. -/
def tagBytes? (owed : Nat) : List Char → Option (List UInt8)
  | [] => if owed = 0 then some [] else none
  | '%' :: a :: b :: cs => do
    let n := 16 * (← Text.hexValue? a) + (← Text.hexValue? b)
    let owed ←
      if owed = 0 then bytesAfter? n
      else if 0x80 ≤ n ∧ n ≤ 0xBF then some (owed - 1)
      else none
    let bytes ← tagBytes? owed cs
    some (UInt8.ofNat n :: bytes)
  | c :: cs =>
    if owed = 0 ∧ c ≠ '%' then (tagBytes? 0 cs).map (Utf8.encode [c] ++ ·) else none

/-- Reads the characters of a tag as bytes. A zero among them ends the tag, and what is written after
it has no meaning. -/
def tagChars? (full : Bool) (c : Cursor) : Option (List UInt8 × Cursor) :=
  let (raw, c) := c.takeWhile (isTagChar full)
  (tagBytes? 0 raw).map fun bytes => (bytes.takeWhile (· ≠ 0), c)

/-- Reads a tag handle: an exclamation mark, perhaps followed by a name and another mark. -/
def tagHandle? (c : Cursor) : Option (List Char × Cursor) :=
  match c.rest with
  | '!' :: _ =>
    let (name, c) := (c.skip 1).takeWhile isNameChar
    match c.rest with
    | '!' :: _ => some ('!' :: name ++ ['!'], c.skip 1)
    | _ => some ('!' :: name, c)
  | _ => none

/-- A handle that stands before a shorthand: it ends with a second mark. -/
def isClosedHandle (handle : List Char) : Bool :=
  2 ≤ handle.length && handle.getLast? == some '!'

/-- The handle and the rest of a tag. A lone mark is a tag of its own. -/
def tagParts? (c : Cursor) : Option ((List Char × List UInt8) × Cursor) :=
  match c.rest with
  | '!' :: '<' :: _ => do
    let start := c.skip 2
    let (name, c) ← tagChars? true start
    if c.column ≠ start.column ∧ c.peek? = some '>' then some (([], name), c.skip 1) else none
  | _ => do
    let (handle, start) ← tagHandle? c
    let (rest, c) ← tagChars? false start
    if isClosedHandle handle then
      if c.column = start.column then none else some ((handle, rest), c)
    else
      -- What looked like the name of a handle belongs to the shorthand.
      let rest := Utf8.encode (handle.drop 1) ++ rest
      if rest = [] then some (([], Utf8.encode ['!']), c) else some ((['!'], rest), c)

/-- Reads a tag, which a blank, a break or, in a flow collection, a comma must follow. -/
def tag? (inFlow : Bool) (c : Cursor) : Option (Token × Cursor) := do
  let ((handle, rest), c) ← tagParts? c
  if endsWord c.rest ∨ (inFlow ∧ c.peek? = some ',') then some (.tag handle rest, c) else none

/-! ## Directives -/

/-- Reads a number of at most nine digits. -/
def versionNumber? (c : Cursor) : Option (Nat × Cursor) :=
  let (ds, c) := c.takeWhile Char.isDigit
  if ds ≠ [] ∧ ds.length ≤ 9 then
    some (ds.foldl (fun n d => 10 * n + (d.toNat - 0x30)) 0, c)
  else none

/-- Moves past blanks. -/
def Cursor.skipBlanks (c : Cursor) : Cursor :=
  (c.takeWhile isBlank).2

/-- Reads the numbers of a version directive. -/
def version? (c : Cursor) : Option (Token × Cursor) := do
  let (major, c) ← versionNumber? c.skipBlanks
  if c.peek? = some '.' then
    let (minor, c) ← versionNumber? (c.skip 1)
    some (.versionDirective major minor, c)
  else none

/-- Reads the handle of a tag directive and what it stands for. -/
def tagDirective? (c : Cursor) : Option (Token × Cursor) := do
  let (handle, c) ← tagHandle? c.skipBlanks
  let next := c.skipBlanks
  if (handle = ['!'] ∨ isClosedHandle handle) ∧ next.column ≠ c.column then
    let (beginning, c) ← tagChars? true next
    if c.column ≠ next.column ∧ endsWord c.rest then some (.tagDirective handle beginning, c) else none
  else none

/-- Reads a directive and the rest of its line. -/
def directive? (c : Cursor) : Option (Token × Cursor) := do
  let (name, c) := (c.skip 1).takeWhile isNameChar
  if endsWord c.rest then
    let (token, c) ←
      if name = "YAML".toList then version? c
      else if name = "TAG".toList then tagDirective? c
      else none
    let c := c.skipBlanks
    let c := if c.peek? = some '#' then (c.takeWhile (!isBreak ·)).2 else c
    match c.rest with
    | [] => some (token, c)
    | d :: ds => if isBreak d then some (token, c.pastBreak ds) else none
  else none

end FilterQuery.Yaml
