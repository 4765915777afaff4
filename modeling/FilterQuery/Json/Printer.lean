import FilterQuery.Json.Basic
import FilterQuery.Text.Hex

/-! # Writing JSON

A document as JSON text, in one line or laid out with two spaces for each level of nesting. Inside
strings only the quote, the backslash and the control characters are escaped.
-/

namespace FilterQuery.Json

/-- How one character is written inside a string. -/
def stringChar (c : Char) : List Char :=
  if c = '"' then ['\\', '"']
  else if c = '\\' then ['\\', '\\']
  else if c = '\x08' then ['\\', 'b']
  else if c = '\t' then ['\\', 't']
  else if c = '\n' then ['\\', 'n']
  else if c = '\x0c' then ['\\', 'f']
  else if c = '\r' then ['\\', 'r']
  else if c < ' ' then
    ['\\', 'u', '0', '0', Text.hexDigit (c.toNat / 16), Text.hexDigit (c.toNat % 16)]
  else [c]

/-- A string between its quotes. -/
def stringChars (s : String) : List Char :=
  '"' :: s.toList.flatMap stringChar ++ ['"']

mutual

/-- A document in one line. -/
def compactChars : Json → List Char
  | null => "null".toList
  | bool true => "true".toList
  | bool false => "false".toList
  | number n => n.chars
  | string s => stringChars s
  | array items => '[' :: compactItems items ++ [']']
  | object members => '\x7b' :: compactMembers members ++ ['\x7d']

/-- The items of an array, between commas. -/
def compactItems : List Json → List Char
  | [] => []
  | [v] => compactChars v
  | v :: w :: vs => compactChars v ++ ',' :: compactItems (w :: vs)

/-- The members of an object, between commas. -/
def compactMembers : List (String × Json) → List Char
  | [] => []
  | [(k, v)] => stringChars k ++ ':' :: compactChars v
  | (k, v) :: m :: ms => stringChars k ++ ':' :: compactChars v ++ ',' :: compactMembers (m :: ms)

end

/-- The break before a line that lies in `level` arrays and objects. -/
def lineBreak (level : Nat) : List Char :=
  '\n' :: List.replicate (2 * level) ' '

mutual

/-- A document inside `level` arrays and objects, laid out over lines. -/
def prettyChars (level : Nat) : Json → List Char
  | null => "null".toList
  | bool true => "true".toList
  | bool false => "false".toList
  | number n => n.chars
  | string s => stringChars s
  | array [] => ['[', ']']
  | array (v :: vs) => '[' :: prettyItems (level + 1) (v :: vs) ++ lineBreak level ++ [']']
  | object [] => ['\x7b', '\x7d']
  | object (m :: ms) =>
    '\x7b' :: prettyMembers (level + 1) (m :: ms) ++ lineBreak level ++ ['\x7d']

/-- The items of an array, each on lines of its own. -/
def prettyItems (level : Nat) : List Json → List Char
  | [] => []
  | [v] => lineBreak level ++ prettyChars level v
  | v :: w :: vs => lineBreak level ++ prettyChars level v ++ ',' :: prettyItems level (w :: vs)

/-- The members of an object, each on lines of its own. -/
def prettyMembers (level : Nat) : List (String × Json) → List Char
  | [] => []
  | [(k, v)] => lineBreak level ++ stringChars k ++ ':' :: ' ' :: prettyChars level v
  | (k, v) :: m :: ms =>
    lineBreak level ++ stringChars k ++ ':' :: ' ' :: prettyChars level v ++
      ',' :: prettyMembers level (m :: ms)

end

/-- The JSON text of a document, in one line. -/
def compact (v : Json) : String :=
  String.ofList v.compactChars

/-- The JSON text of a document, laid out over lines. -/
def pretty (v : Json) : String :=
  String.ofList (v.prettyChars 0)

end FilterQuery.Json
