import FilterQuery.Text.Hex
import FilterQuery.Yaml.Cursor

/-! # Quoted scalars

Between single quotes a quote is written twice and nothing else is special. Between double quotes a
backslash begins an escape, and before a break it joins two lines without a space. Breaks are folded
in both.
-/

namespace FilterQuery.Yaml

/-- Reads the rest of a single-quoted scalar. `out` is the content so far, in reverse. -/
def singleQuotedFrom (out : List Char) (gap : Gap) (pos : Cursor) :
    List Char → Option (List Char × Cursor)
  | [] => none
  | '\x27' :: '\x27' :: cs =>
    let here := { pos with rest := '\x27' :: '\x27' :: cs }
    singleQuotedFrom ('\x27' :: (gap.folded ++ out)) .none (here.skip 2) cs
  | c :: cs =>
    let here := { pos with rest := c :: cs }
    if isBlank c then singleQuotedFrom out (gap.addBlank c) (here.past cs) cs
    else if isBreak c then singleQuotedFrom out (gap.addBreak c) (here.pastBreak cs) cs
    else if here.column == 0 && startsWithMarker here.rest then none
    else if c = '\x27' then some ((gap.folded ++ out).reverse, here.past cs)
    else singleQuotedFrom (c :: (gap.folded ++ out)) .none (here.past cs) cs

/-- Where the reader of a double-quoted scalar stands within an escape. -/
inductive EscapeState where
  | outside
  | afterBackslash
  /-- Digits of a code point are owed. -/
  | digits (owed value : Nat)

/-- The character that a letter after a backslash stands for. -/
def escapedChar? (c : Char) : Option Char :=
  match c with
  | '0' => some '\x00'
  | 'a' => some '\x07'
  | 'b' => some '\x08'
  | 't' | '\t' => some '\t'
  | 'n' => some '\n'
  | 'v' => some '\x0b'
  | 'f' => some '\x0c'
  | 'r' => some '\r'
  | 'e' => some '\x1b'
  | ' ' => some ' '
  | '"' => some '"'
  | '/' => some '/'
  | '\\' => some '\\'
  | 'N' => some '\x85'
  | '_' => some '\xa0'
  | 'L' => some '\u2028'
  | 'P' => some '\u2029'
  | _ => none

/-- How many digits follow a letter that begins a code point. -/
def escapeDigits? (c : Char) : Option Nat :=
  match c with
  | 'x' => some 2
  | 'u' => some 4
  | 'U' => some 8
  | _ => none

/-- The character of a code point, if there is one. -/
def charOfCode? (n : Nat) : Option Char :=
  if n.isValidChar then some (Char.ofNat n) else none

/-- Reads the rest of a double-quoted scalar. `out` is the content so far, in reverse. -/
def doubleQuotedFrom (escape : EscapeState) (out : List Char) (gap : Gap) (pos : Cursor) :
    List Char → Option (List Char × Cursor)
  | [] => none
  | c :: cs =>
    let here := { pos with rest := c :: cs }
    match escape with
    | .afterBackslash =>
      -- The escaped break vanishes; breaks of blank lines after it stay.
      if isBreak c then doubleQuotedFrom .outside out (.breaks [] []) (here.pastBreak cs) cs
      else
        match escapeDigits? c, escapedChar? c with
        | some n, _ => doubleQuotedFrom (.digits n 0) out .none (here.past cs) cs
        | none, some e => doubleQuotedFrom .outside (e :: out) .none (here.past cs) cs
        | none, none => none
    | .digits owed value =>
      match Text.hexValue? c with
      | none => none
      | some d =>
        let value := 16 * value + d
        if 1 < owed then
          doubleQuotedFrom (.digits (owed - 1) value) out .none (here.past cs) cs
        else
          match charOfCode? value with
          | some e => doubleQuotedFrom .outside (e :: out) .none (here.past cs) cs
          | none => none
    | .outside =>
      if isBlank c then doubleQuotedFrom .outside out (gap.addBlank c) (here.past cs) cs
      else if isBreak c then doubleQuotedFrom .outside out (gap.addBreak c) (here.pastBreak cs) cs
      else if here.column == 0 && startsWithMarker here.rest then none
      else if c = '"' then some ((gap.folded ++ out).reverse, here.past cs)
      else if c = '\\' then
        doubleQuotedFrom .afterBackslash (gap.folded ++ out) .none (here.past cs) cs
      else doubleQuotedFrom .outside (c :: (gap.folded ++ out)) .none (here.past cs) cs

/-- Reads a quoted scalar from its opening quote on. -/
def quotedScalar? (c : Cursor) : Option (List Char × Cursor) :=
  match c.rest with
  | '\x27' :: cs => singleQuotedFrom [] .none (c.past cs) cs
  | '"' :: cs => doubleQuotedFrom .outside [] .none (c.past cs) cs
  | _ => none

end FilterQuery.Yaml
