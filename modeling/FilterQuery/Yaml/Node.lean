import FilterQuery.Table
import FilterQuery.Text.Utf8
import FilterQuery.Yaml.Token.Basic

/-! # Nodes of YAML

The tree that the tokens of a YAML text form: scalars, sequences and mappings with their anchors and
tags, and aliases, which stand for an anchored node elsewhere. Names of anchors are replaced by
numbers: an anchor's number is how many names were known before it, and an alias has the number that
its name was last given.
-/

namespace FilterQuery.Yaml

/-- What a node carries besides its content. -/
structure Properties where
  anchor : Option Nat
  /-- The bytes of the tag. -/
  tag : Option (List UInt8)
  deriving DecidableEq

/-- A node of a YAML text. -/
inductive Node where
  /-- An alias for the anchored node with a number. -/
  | reference (number : Nat)
  | scalar (properties : Properties) (plain : Bool) (text : List Char)
  | sequence (properties : Properties) (items : List Node)
  | mapping (properties : Properties) (pairs : List (Node × Node))

namespace Node

/-- The node that stands where none is written. -/
def empty : Node := scalar ⟨none, none⟩ true []

end Node

/-! ## Reading tokens -/

/-- What a reader of nodes has before it: the tokens, and the numbers of the names of anchors. -/
structure Source where
  tokens : List Token
  numbers : List (List Char × Nat)

/-- Reads something from a source, or fails. -/
abbrev Reader := StateT Source Option

namespace Reader

/-- The next token. -/
def peek : Reader (Option Token) := do
  return (← get).tokens.head?

/-- Moves past a token. -/
def advance : Reader Unit :=
  modify fun s => { s with tokens := s.tokens.tail }

/-- Moves past the next token if it is the given one. -/
def skip (t : Token) : Reader Bool := do
  if (← peek) = some t then
    advance
    return true
  else return false

/-- Moves past the next token, which has to be the given one. -/
def expect (t : Token) : Reader Unit := do
  unless ← skip t do failure

/-- Reads a node, unless the next token is one of those that leave it out. -/
def orEmpty (stops : List Token) (read : Reader Node) : Reader Node := do
  match ← peek with
  | some t => if t ∈ stops then return .empty else read
  | none => read

/-! ## Properties -/

/-- The tag that a handle and a shorthand stand for. -/
def resolveTag (handles : List (List Char × List UInt8)) (handle : List Char)
    (rest : List UInt8) : Reader (List UInt8) :=
  if handle = [] then return rest
  else
    match Pairs.get? handle handles with
    | some beginning => return beginning ++ rest
    | none => failure

/-- Reads an anchor, if one is next, and gives its name a number. -/
def anchor : Reader (Option Nat) := do
  match ← peek with
  | some (.anchor name) =>
    advance
    let n := (← get).numbers.length
    modify fun s => { s with numbers := Pairs.put name n s.numbers }
    return some n
  | _ => return none

/-- Reads a tag, if one is next. -/
def tag (handles : List (List Char × List UInt8)) : Reader (Option (List UInt8)) := do
  match ← peek with
  | some (.tag handle rest) =>
    advance
    some <$> resolveTag handles handle rest
  | _ => return none

/-- Reads the properties of a node, in either order. -/
def properties (handles : List (List Char × List UInt8)) : Reader Properties := do
  match ← anchor with
  | some n => return ⟨some n, ← tag handles⟩
  | none =>
    match ← tag handles with
    | some t => return ⟨← anchor, some t⟩
    | none => return ⟨none, none⟩

/-- The node of properties without content, which is an empty scalar. -/
def contentless (p : Properties) : Reader Node :=
  if p.anchor = none ∧ p.tag = none then failure else return .scalar p true []

/-- The node that an alias names. -/
def referenceNode (name : List Char) : Reader Node := do
  match Pairs.get? name (← get).numbers with
  | some n => return .reference n
  | none => failure

/-! ## Nodes -/

mutual

/-- Reads a node. Block collections are allowed if `block`, and the items of a sequence that is not
indented if `indentless`. -/
def node (handles : List (List Char × List UInt8)) (block indentless : Bool) :
    Nat → Reader Node
  | 0 => failure
  | fuel + 1 => do
    match ← peek with
    | some (.reference name) =>
      advance
      referenceNode name
    | _ =>
      let p ← properties handles
      match ← peek with
      | some (.scalar plain text) =>
        advance
        return .scalar p plain text
      | some .flowSequence =>
        advance
        .sequence p <$> flowItems handles true fuel
      | some .flowMapping =>
        advance
        .mapping p <$> flowPairs handles true fuel
      -- The items of a sequence may stand in the column of the key that it is the value of.
      | some .item =>
        if indentless then .sequence p <$> blockItems handles true fuel else contentless p
      | some .blockSequence =>
        if block then
          advance
          .sequence p <$> blockItems handles false fuel
        else contentless p
      | some .blockMapping =>
        if block then
          advance
          .mapping p <$> blockPairs handles fuel
        else contentless p
      | _ => contentless p

/-- Reads the items of a block sequence. If that is not indented, it ends where no item follows. -/
def blockItems (handles : List (List Char × List UInt8)) (indentless : Bool) :
    Nat → Reader (List Node)
  | 0 => failure
  | fuel + 1 => do
    if ← skip .item then
      let stops := if indentless then [.item, .key, .value, .blockEnd] else [.item, .blockEnd]
      let v ← orEmpty stops (node handles true false fuel)
      return v :: (← blockItems handles indentless fuel)
    else
      -- A sequence that is not indented opened no block, so none ends here.
      unless indentless do expect .blockEnd
      return []

/-- Reads the pairs of a block mapping. -/
def blockPairs (handles : List (List Char × List UInt8)) : Nat → Reader (List (Node × Node))
  | 0 => failure
  | fuel + 1 => do
    if ← skip .key then
      let content := orEmpty [.key, .value, .blockEnd] (node handles true true fuel)
      let k ← content
      let v ← if ← skip .value then content else pure .empty
      return (k, v) :: (← blockPairs handles fuel)
    else
      expect .blockEnd
      return []

/-- Reads the items of a flow sequence. A key may stand among them, and makes a mapping of one pair
with its value. -/
def flowItems (handles : List (List Char × List UInt8)) (isFirst : Bool) :
    Nat → Reader (List Node)
  | 0 => failure
  | fuel + 1 => do
    if ← skip .flowSequenceEnd then return []
    else
      unless isFirst do expect .comma
      if ← skip .key then
        let pair ← flowPair handles fuel
        return .mapping ⟨none, none⟩ [pair] :: (← flowItems handles false fuel)
      -- A comma may stand before the end.
      else if ← skip .flowSequenceEnd then return []
      else
        let v ← node handles false false fuel
        return v :: (← flowItems handles false fuel)

/-- Reads a pair in a flow sequence, after the mark of its key. Where the key is left out, the token
that shows this is passed over. -/
def flowPair (handles : List (List Char × List UInt8)) : Nat → Reader (Node × Node)
  | 0 => failure
  | fuel + 1 => do
    let next ← peek
    let k ←
      if next ∈ [some .value, some .comma, some .flowSequenceEnd] then
        advance
        pure .empty
      else node handles false false fuel
    let v ←
      if ← skip .value then
        orEmpty [.comma, .flowSequenceEnd] (node handles false false fuel)
      else pure .empty
    return (k, v)

/-- Reads the pairs of a flow mapping. -/
def flowPairs (handles : List (List Char × List UInt8)) (isFirst : Bool) :
    Nat → Reader (List (Node × Node))
  | 0 => failure
  | fuel + 1 => do
    if ← skip .flowMappingEnd then return []
    else
      unless isFirst do expect .comma
      if ← skip .key then
        let k ← orEmpty [.value, .comma, .flowMappingEnd] (node handles false false fuel)
        let v ←
          if ← skip .value then
            orEmpty [.comma, .flowMappingEnd] (node handles false false fuel)
          else pure .empty
        return (k, v) :: (← flowPairs handles false fuel)
      else if ← skip .flowMappingEnd then return []
      else
        let k ← node handles false false fuel
        return (k, .empty) :: (← flowPairs handles false fuel)

end

/-! ## Documents -/

/-- The directives before a document. -/
structure Directives where
  hasVersion : Bool
  handles : List (List Char × List UInt8)

/-- The handles that need no directive. -/
def standardHandles : List (List Char × List UInt8) :=
  [(['!'], Utf8.encode ['!']), (['!', '!'], Utf8.encode "tag:yaml.org,2002:".toList)]

/-- Reads directives up to another token. A version or a handle is given once. -/
def directives (d : Directives) : List Token → Option (Directives × List Token)
  | .versionDirective major minor :: ts =>
    if ¬ d.hasVersion ∧ major = 1 ∧ (minor = 1 ∨ minor = 2) then
      directives { d with hasVersion := true } ts
    else none
  | .tagDirective handle beginning :: ts =>
    if handle ∈ d.handles.map Prod.fst then none
    else directives { d with handles := d.handles ++ [(handle, beginning)] } ts
  | ts => some (d, ts)

/-- Reads a document: its content, with or without directives and three dashes before it. -/
def document : Reader Node := do
  let source ← get
  let (d, rest) ← (directives ⟨false, []⟩ source.tokens : Option _)
  let handles := d.handles ++ standardHandles
  -- Between two tokens that are read, the readers call one another fewer than four times.
  let fuel := 4 * (source.tokens.length + 1)
  -- Neither directives nor dashes: the content follows at once.
  if rest.length = source.tokens.length ∧ rest.head? ≠ some .documentStart then
    node handles true false fuel
  else
    set { source with tokens := rest }
    expect .documentStart
    match ← peek with
    | none | some .documentStart | some .documentEnd | some (.versionDirective ..)
    | some (.tagDirective ..) => return .empty
    | _ => node handles true false fuel

/-- Reads a text of at most one document, after which there may be ends of documents only. -/
def text : Reader Node := do
  if (← peek) = none then return .empty
  else
    let content ← document
    let rest := (← get).tokens.dropWhile (· = .documentEnd)
    if rest = [] then return content else failure

end Reader

/-- The node of the document that tokens form. No document is an empty node. -/
def Node.ofTokens? (ts : List Token) : Option Node :=
  (Reader.text.run ⟨ts, []⟩).map Prod.fst

end FilterQuery.Yaml
