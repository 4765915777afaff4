import FilterQuery.Json.Number
import FilterQuery.Text.Hex

/-! # Tokens of JSON

`Token.ofChars?` cuts a JSON text into punctuation, words, numbers and strings. It reads one
character at a time: a `Token.Mode` says what the next character continues.
-/

namespace FilterQuery.Json

/-- A token of a JSON text. -/
inductive Token where
  | openArray
  | closeArray
  | openObject
  | closeObject
  | comma
  | colon
  | null
  | bool (value : Bool)
  | number (value : Number)
  | string (text : String)
  deriving DecidableEq

namespace Token

/-- What the next character continues. Characters already read are kept in reverse. -/
inductive Mode where
  /-- No token has begun. -/
  | between
  /-- A row of lower-case letters. -/
  | word (read : List Char)
  /-- A number literal. -/
  | number (read : List Char)
  /-- A string. -/
  | text (read : List Char)
  /-- A string, after a backslash. -/
  | escape (read : List Char)
  /-- A string, within `\u`: the digits still owed, the value of those read, and the first half of
  a surrogate pair if this is the second. -/
  | unit (read : List Char) (high : Option Nat) (owed value : Nat)
  /-- A string, after the first half of a surrogate pair. -/
  | half (read : List Char) (high : Nat)
  /-- The same, after the backslash of the second half. -/
  | halfEscape (read : List Char) (high : Nat)

/-- The characters between tokens. -/
def isBlank (c : Char) : Bool :=
  c == ' ' || c == '\t' || c == '\n' || c == '\r'

/-- The characters that number literals are made of. -/
def isNumberChar (c : Char) : Bool :=
  c.isDigit || c == '+' || c == '-' || c == '.' || c == 'e' || c == 'E'

/-- The token of a complete word. -/
def ofWord? (s : List Char) : Option Token :=
  if s = "null".toList then some null
  else if s = "true".toList then some (bool true)
  else if s = "false".toList then some (bool false)
  else none

/-- The first character of a token, or one between tokens: the token if that is all of it. -/
def start (c : Char) : Option (List Token × Mode) :=
  if isBlank c then some ([], .between)
  else if c = '[' then some ([openArray], .between)
  else if c = ']' then some ([closeArray], .between)
  else if c = '\x7b' then some ([openObject], .between)
  else if c = '\x7d' then some ([closeObject], .between)
  else if c = ',' then some ([comma], .between)
  else if c = ':' then some ([colon], .between)
  else if c = '"' then some ([], .text [])
  else if c = '-' ∨ c.isDigit then some ([], .number [c])
  else if c.isLower then some ([], .word [c])
  else none

/-- The character that a letter after a backslash stands for. -/
def escaped? (c : Char) : Option Char :=
  if c = '"' ∨ c = '\\' ∨ c = '/' then some c
  else if c = 'b' then some '\x08'
  else if c = 'f' then some '\x0c'
  else if c = 'n' then some '\n'
  else if c = 'r' then some '\r'
  else if c = 't' then some '\t'
  else none

/-- The mode after the last digit of `\u`: half a surrogate pair needs its other half. -/
def afterUnit (read : List Char) (high : Option Nat) (value : Nat) : Option Mode :=
  match high with
  | none =>
    if 0xD800 ≤ value ∧ value ≤ 0xDBFF then some (.half read value)
    else if 0xDC00 ≤ value ∧ value ≤ 0xDFFF then none
    else some (.text (Char.ofNat value :: read))
  | some high =>
    if 0xDC00 ≤ value ∧ value ≤ 0xDFFF then
      some (.text (Char.ofNat (0x10000 + (high - 0xD800) * 0x400 + (value - 0xDC00)) :: read))
    else none

/-- The token of a text that ends here. -/
def Mode.finish : Mode → Option (List Token)
  | .between => some []
  | .word read => (ofWord? read.reverse).map ([·])
  | .number read => (Number.ofLiteral? read.reverse).map ([.number ·])
  | _ => none

/-- Reads a character: the tokens that it completes, and the mode after it. -/
def Mode.step (c : Char) : Mode → Option (List Token × Mode)
  | .between => start c
  -- A word and a number end before a character of another kind, which begins the next token.
  | .word read =>
    if c.isLower then some ([], .word (c :: read))
    else do
      let done ← (Mode.word read).finish
      let (tokens, mode) ← start c
      some (done ++ tokens, mode)
  | .number read =>
    if isNumberChar c then some ([], .number (c :: read))
    else do
      let done ← (Mode.number read).finish
      let (tokens, mode) ← start c
      some (done ++ tokens, mode)
  | .text read =>
    if c = '"' then some ([.string (String.ofList read.reverse)], .between)
    else if c = '\\' then some ([], .escape read)
    -- Control characters must be escaped.
    else if c < ' ' then none
    else some ([], .text (c :: read))
  | .escape read =>
    if c = 'u' then some ([], .unit read none 4 0)
    else (escaped? c).map fun e => ([], .text (e :: read))
  | .unit read high owed value => do
    let value := 16 * value + (← Text.hexValue? c)
    if owed ≤ 1 then (afterUnit read high value).map ([], ·)
    else some ([], .unit read high (owed - 1) value)
  | .half read high => if c = '\\' then some ([], .halfEscape read high) else none
  | .halfEscape read high => if c = 'u' then some ([], .unit read (some high) 4 0) else none

/-- Reads the rest of a text. -/
def Mode.run : Mode → List Char → Option (List Token)
  | mode, [] => mode.finish
  | mode, c :: cs => do
    let (tokens, mode) ← mode.step c
    let rest ← mode.run cs
    some (tokens ++ rest)

/-- The tokens of a JSON text. -/
def ofChars? (s : List Char) : Option (List Token) :=
  Mode.between.run s

end Token

end FilterQuery.Json
