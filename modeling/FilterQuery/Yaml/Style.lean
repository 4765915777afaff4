import FilterQuery.Text.Hex
import FilterQuery.Yaml.Schema
import FilterQuery.Yaml.Cursor

/-! # Styles of scalars

How a text is written as a YAML scalar. Texts with line feeds become literal blocks, texts that
stand for themselves go without quotes, all others between quotes: single ones, unless something in
the text can only be written as an escape.
-/

namespace FilterQuery.Yaml

/-- How a scalar is written. -/
inductive Style where
  | plain
  | singleQuoted
  | doubleQuoted
  /-- Lines after a bar. -/
  | literal
  deriving DecidableEq

/-- The characters that are written as they are. -/
def isPrintable (c : Char) : Bool :=
  let n := c.toNat
  n == 0x0A || (0x20 ≤ n && n ≤ 0x7E) ||
    (0xA0 ≤ n && n ≤ 0xFFFD && n != 0xFEFF) || 0x10000 ≤ n

/-- A character of the first kind stands directly before one of the second. -/
def hasPair (p q : Char → Bool) : List Char → Bool
  | c :: d :: cs => (p c && q d) || hasPair p q (d :: cs)
  | _ => false

/-- Some character cannot be written as it is, or a space before a break would be lost. -/
def needsEscapes (s : List Char) : Bool :=
  !s.all isPrintable || hasPair (· == ' ') isBreak s

/-- A colon that ends a word, or a number sign that begins one after the first. -/
def hasMark : List Char → Bool
  | [] => false
  | c :: cs =>
    (c == ':' && endsWord cs) || ((isBlank c || isBreak c) && cs.head? == some '#') || hasMark cs

/-- The characters that never begin a scalar without quotes. -/
def leadingIndicators : List Char :=
  ['#', ',', '[', ']', '\x7b', '\x7d', '&', '*', '!', '|', '>', '\x27', '"', '%', '@', '\x60']

/-- The text begins like something other than a scalar. -/
def beginsLikeMark (s : List Char) : Bool :=
  match s with
  | [] => false
  | c :: cs =>
    c ∈ leadingIndicators || ((c == '?' || c == ':' || c == '-') && endsWord cs) ||
      "---".toList.isPrefixOf s || "...".toList.isPrefixOf s

/-- The text can be written without quotes. -/
def allowsPlain (s : List Char) : Bool :=
  !needsEscapes s && !s.any isBreak && s.head? != some ' ' && s.getLast? != some ' ' &&
    !beginsLikeMark s && !hasMark s

/-- The text can be written between single quotes. -/
def allowsSingleQuoted (s : List Char) : Bool :=
  !needsEscapes s && !hasPair isBreak (· == ' ') s

/-- The text can be written as a literal block. -/
def allowsLiteral (s : List Char) : Bool :=
  !needsEscapes s && s.getLast? != some ' '

/-- The style of a text. -/
def Style.ofText (s : List Char) : Style :=
  if '\n' ∈ s then if allowsLiteral s then literal else doubleQuoted
  else if isPlainText s && allowsPlain s then plain
  else if allowsSingleQuoted s then singleQuoted
  else doubleQuoted

/-! ## Writing -/

/-- A row of spaces. -/
def spaces (n : Nat) : List Char := List.replicate n ' '

/-- The content between single quotes, with `indent` spaces before whatever follows a break. -/
def singleQuotedChars (indent : Nat) (afterBreak : Bool) : List Char → List Char
  | [] => if afterBreak then spaces indent else []
  | c :: cs =>
    if isBreak c then c :: singleQuotedChars indent true cs
    else
      (if afterBreak then spaces indent else []) ++
        (if c = '\x27' then ['\x27', '\x27'] else [c]) ++ singleQuotedChars indent false cs

/-- The upper-case digits of a number, as many as asked for. -/
def upperHexChars : Nat → Nat → List Char
  | 0, _ => []
  | width + 1, n => upperHexChars width (n / 16) ++ [Text.upperHexDigit (n % 16)]

/-- A character as an escape. -/
def escapeChars (c : Char) : List Char :=
  let n := c.toNat
  if c = '\x00' then ['\\', '0']
  else if c = '\x07' then ['\\', 'a']
  else if c = '\x08' then ['\\', 'b']
  else if c = '\t' then ['\\', 't']
  else if c = '\n' then ['\\', 'n']
  else if c = '\x0b' then ['\\', 'v']
  else if c = '\x0c' then ['\\', 'f']
  else if c = '\r' then ['\\', 'r']
  else if c = '\x1b' then ['\\', 'e']
  else if c = '"' then ['\\', '"']
  else if c = '\\' then ['\\', '\\']
  else if c = '\x85' then ['\\', 'N']
  else if c = '\u2028' then ['\\', 'L']
  else if c = '\u2029' then ['\\', 'P']
  else if n ≤ 0xFF then '\\' :: 'x' :: upperHexChars 2 n
  else if n ≤ 0xFFFF then '\\' :: 'u' :: upperHexChars 4 n
  else '\\' :: 'U' :: upperHexChars 8 n

/-- A character between double quotes. -/
def doubleQuotedChar (c : Char) : List Char :=
  if isPrintable c && !isBreak c && c != '"' && c != '\\' then [c] else escapeChars c

/-- What follows the bar of a literal block: the indentation if the text begins with a space or a
break, and what becomes of the breaks at its end. -/
def literalHeader (s : List Char) : List Char :=
  -- A margin cannot be told from spaces or breaks that the text begins with.
  let indentation := match s with
    | c :: _ => if c = ' ' ∨ isBreak c then ['2'] else []
    | [] => []
  let chomping := match s.reverse with
    | [] => ['-']
    | [c] => if isBreak c then ['+'] else ['-']
    | c :: d :: _ => if isBreak c then (if isBreak d then ['+'] else []) else ['-']
  indentation ++ chomping

/-- The lines of a literal block, with `indent` spaces before whatever follows a break. -/
def literalChars (indent : Nat) (afterBreak : Bool) : List Char → List Char
  | [] => []
  | c :: cs =>
    if isBreak c then c :: literalChars indent true cs
    else (if afterBreak then spaces indent else []) ++ c :: literalChars indent false cs

/-- A text as a scalar, whose later lines are indented by `indent`. -/
def scalarChars (indent : Nat) (s : List Char) : List Char :=
  match Style.ofText s with
  | .plain => s
  | .singleQuoted => '\x27' :: singleQuotedChars indent false s ++ ['\x27']
  | .doubleQuoted => '"' :: s.flatMap doubleQuotedChar ++ ['"']
  | .literal => '|' :: literalHeader s ++ '\n' :: literalChars indent true s

end FilterQuery.Yaml
