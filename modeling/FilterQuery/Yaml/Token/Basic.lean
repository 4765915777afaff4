/-! # Tokens of YAML

The pieces that a YAML text is cut into. Where a block collection begins and ends, and which scalars
are keys, follows from the indentation; tokens say it in so many words.
-/

namespace FilterQuery.Yaml

/-- A token of a YAML text. -/
inductive Token where
  /-- Three dashes. -/
  | documentStart
  /-- Three points. -/
  | documentEnd
  | versionDirective (major minor : Nat)
  /-- From here on the handle stands for the beginning of a tag. -/
  | tagDirective (handle : List Char) (beginning : List UInt8)
  | blockSequence
  | blockMapping
  | blockEnd
  | flowSequence
  | flowSequenceEnd
  | flowMapping
  | flowMappingEnd
  /-- The dash before an item of a block sequence. -/
  | item
  /-- The comma in a flow collection. -/
  | comma
  | key
  | value
  /-- An alias. -/
  | reference (name : List Char)
  | anchor (name : List Char)
  /-- A tag as it is written: a handle, which may be empty, and the bytes of the rest. -/
  | tag (handle : List Char) (rest : List UInt8)
  | scalar (plain : Bool) (text : List Char)
  deriving DecidableEq

end FilterQuery.Yaml
