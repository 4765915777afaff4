import FilterQuery.Text.Hex
import FilterQuery.Text.Visible

/-! # Quoted texts

The way a value is shown to a reader: between double quotes, with a backslash before a quote or a
backslash, short names for the common control characters, and `\u` with the code point in braces
for everything else that is not visible.
-/

namespace FilterQuery.Text

/-- How one character is written between quotes. -/
def quotedChar (c : Char) : List Char :=
  if c = '\x00' then ['\\', '0']
  else if c = '\t' then ['\\', 't']
  else if c = '\r' then ['\\', 'r']
  else if c = '\n' then ['\\', 'n']
  else if c = '"' then ['\\', '"']
  else if c = '\\' then ['\\', '\\']
  else if isVisible c then [c]
  else '\\' :: 'u' :: '\x7b' :: hexDigits c.toNat ++ ['\x7d']

/-- A text between double quotes. -/
def quoted (s : List Char) : List Char :=
  '"' :: s.flatMap quotedChar ++ ['"']

end FilterQuery.Text
