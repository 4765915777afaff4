import FilterQuery.Outline
import FilterQuery.Yaml.Style

/-! # Writing YAML

An outline as YAML text, over lines. A variant is tagged with the name of its kind; since a node has
one tag at most, a variant whose payload is a variant itself cannot be written.

The items of a list that is the value of a member stand in the column of the member's name, those
of other lists and the members of records two columns further in than what they belong to.
-/

namespace FilterQuery.Outline

mutual

/-- No variant is the payload of another, so every node needs one tag at most. -/
def isSinglyTagged : Outline → Bool
  | text _ => true
  | list items => areSinglyTagged items
  | record members => membersAreSinglyTagged members
  | variant _ (variant _ _) => false
  | variant _ payload => payload.isSinglyTagged

/-- The same of the items of a list. -/
def areSinglyTagged : List Outline → Bool
  | [] => true
  | o :: os => o.isSinglyTagged && areSinglyTagged os

/-- The same of the members of a record. -/
def membersAreSinglyTagged : List (String × Outline) → Bool
  | [] => true
  | (_, o) :: os => o.isSinglyTagged && membersAreSinglyTagged os

end

end FilterQuery.Outline

namespace FilterQuery.Yaml

/-- Ends a line, unless it has ended with a break of its own. -/
def endLine (line : List Char) : List Char :=
  if line.getLast?.any isBreak then line else line ++ ['\n']

/-- The tag of a variant. -/
def tagChars (tag : String) : List Char :=
  ' ' :: '!' :: tag.toList

/-- A member of a record: its name, and what follows that. -/
def memberChars (name : String) (rest : List Char) : List Char :=
  name.toList ++ ':' :: rest

mutual

/-- What follows the name of a member, or a tag: the items of a list go on lines of their own in
one column, the members of a record in another. -/
def nestedChars (itemColumn memberColumn : Nat) : Outline → List Char
  | .text s => endLine (' ' :: scalarChars memberColumn s.toList)
  | .list [] => " []\n".toList
  | .list (o :: os) => '\n' :: itemsChars itemColumn (o :: os)
  | .record [] => " \x7b\x7d\n".toList
  | .record (m :: ms) => '\n' :: membersChars memberColumn (m :: ms)
  | .variant tag payload => tagChars tag ++ nestedChars itemColumn memberColumn payload

/-- What follows the dash of an item in a column. A list or a record begins in the same line, unless
it is tagged. -/
def itemChars (column : Nat) : Outline → List Char
  | .text s => endLine (' ' :: scalarChars (column + 2) s.toList)
  | .list [] => " []\n".toList
  -- The first item stands in the line of the dash, the others in its column.
  | .list (o :: os) => ' ' :: '-' :: itemChars (column + 2) o ++ itemsChars (column + 2) os
  | .record [] => " \x7b\x7d\n".toList
  | .record ((name, o) :: ms) =>
    ' ' :: memberChars name (nestedChars (column + 2) (column + 4) o) ++
      membersChars (column + 2) ms
  | .variant tag payload => tagChars tag ++ nestedChars (column + 2) (column + 2) payload

/-- The items of a list, each after a dash in a column. -/
def itemsChars (column : Nat) : List Outline → List Char
  | [] => []
  | o :: os => spaces column ++ '-' :: itemChars column o ++ itemsChars column os

/-- The members of a record, each in a column. -/
def membersChars (column : Nat) : List (String × Outline) → List Char
  | [] => []
  | (name, o) :: ms =>
    spaces column ++ memberChars name (nestedChars column (column + 2) o) ++
      membersChars column ms

end

/-- The YAML text of a record, if every node needs one tag at most. -/
def print? (members : List (String × Outline)) : Option String :=
  if Outline.membersAreSinglyTagged members then some (String.ofList (membersChars 0 members))
  else none

end FilterQuery.Yaml
