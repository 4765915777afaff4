import FilterQuery.Yaml.Cursor

/-! # Block scalars

A block scalar is a bar or an angle, an optional header, and the indented lines below. After a bar
the lines stay as they are; after an angle a break between two lines that begin with no blank
becomes a space. The header may fix the indentation and what becomes of the breaks at the end.
-/

namespace FilterQuery.Yaml

/-- What becomes of the breaks at the end of a block scalar. -/
inductive Chomping where
  /-- All go. -/
  | strip
  /-- The first stays. -/
  | clip
  /-- All stay. -/
  | keep
  deriving DecidableEq

/-- The header of a block scalar: chomping and indentation, in either order. -/
structure BlockHeader where
  chomping : Chomping
  /-- How much deeper than its surroundings the scalar lies, if that is written. -/
  indentation : Option Nat

/-- The chomping that a sign asks for. -/
def chomping? (c : Char) : Option Chomping :=
  if c = '+' then some .keep else if c = '-' then some .strip else none

/-- A digit of an indentation; zero is none. -/
def indentation? (c : Char) : Option Nat :=
  if c.isDigit ∧ c ≠ '0' then some (c.toNat - 0x30) else none

/-- Reads the header after the bar or angle: it, and what follows it in the line. A zero for the
indentation is left standing, where nothing may stand. -/
def blockHeader : List Char → BlockHeader × List Char
  | [] => (⟨.clip, none⟩, [])
  | c :: cs =>
    match chomping? c, indentation? c, cs with
    | some chomping, _, [] => (⟨chomping, none⟩, [])
    | some chomping, _, d :: ds =>
      match indentation? d with
      | some n => (⟨chomping, some n⟩, ds)
      | none => (⟨chomping, none⟩, d :: ds)
    | none, some n, [] => (⟨.clip, some n⟩, [])
    | none, some n, d :: ds =>
      match chomping? d with
      | some chomping => (⟨chomping, some n⟩, ds)
      | none => (⟨.clip, some n⟩, d :: ds)
    | none, none, _ => (⟨.clip, none⟩, c :: cs)

/-- What has been read of a block scalar; texts are in reverse. -/
structure BlockText where
  /-- The column at which lines begin, once it is known. -/
  indent : Option Nat
  /-- The widest of the blank lines before the first line. -/
  widest : Nat
  out : List Char
  /-- The break after the last line. -/
  lineBreak : List Char
  /-- The breaks of the blank lines after that. -/
  blankLines : List Char
  /-- The last line begins with a blank. -/
  leadingBlank : Bool

namespace BlockText

/-- Whether the margin of a line may still go on at a column. -/
def inMargin (b : BlockText) (column : Nat) : Bool :=
  match b.indent with
  | none => true
  | some n => column < n

/-- Begins a line with the character `c`: the breaks before it become text or are folded. -/
def beginLine (literal : Bool) (b : BlockText) (c : Char) : BlockText :=
  let folds := !literal && b.lineBreak == ['\n'] && !b.leadingBlank && !isBlank c
  let out :=
    -- A single break becomes a space; of several, the first is dropped.
    if folds then (if b.blankLines.isEmpty then ' ' :: b.out else b.out)
    else b.lineBreak ++ b.out
  { b with
    out := b.blankLines ++ out
    lineBreak := []
    blankLines := []
    leadingBlank := isBlank c }

/-- The text of the scalar. -/
def text (b : BlockText) : Chomping → List Char
  | .strip => b.out.reverse
  | .clip => (b.lineBreak ++ b.out).reverse
  | .keep => (b.blankLines ++ (b.lineBreak ++ b.out)).reverse

end BlockText

/-- Reads the rest of a block scalar, from the margin of a line or from within a line. -/
def blockFrom (literal : Bool) (parent : Nat) (inLine : Bool) (b : BlockText) (pos : Cursor) :
    List Char → Option (BlockText × Cursor)
  | [] => some (b, { pos with rest := [] })
  | c :: cs =>
    let here := { pos with rest := c :: cs }
    if inLine then
      if isBreak c then
        blockFrom literal parent false { b with lineBreak := [c] } (here.pastBreak cs) cs
      else blockFrom literal parent true { b with out := c :: b.out } (here.past cs) cs
    else if c == ' ' && b.inMargin pos.column then
      blockFrom literal parent false b (here.past cs) cs
    -- A tab cannot indent.
    else if c == '\t' && b.inMargin pos.column then none
    else if isBreak c then
      let b := { b with blankLines := c :: b.blankLines, widest := max b.widest pos.column }
      blockFrom literal parent false b (here.pastBreak cs) cs
    else
      -- The first line that is not blank fixes the column of the lines.
      let indent := b.indent.getD (max (max b.widest pos.column) (max parent 1))
      let b := { b with indent := some indent }
      if pos.column = indent then
        let b := b.beginLine literal c
        blockFrom literal parent true { b with out := c :: b.out } (here.past cs) cs
      -- A line further out belongs to the surroundings.
      else some (b, here)

/-- Reads a block scalar from its bar or angle on. `parent` is the column at which the lines of its
surroundings would go on. -/
def blockScalar? (parent : Nat) (c : Cursor) : Option (List Char × Cursor) :=
  let literal := c.peek? == some '|'
  let (header, rest) := blockHeader (c.rest.drop 1)
  let rest := rest.dropWhile isBlank
  let rest := if rest.head? = some '#' then rest.dropWhile (!isBreak ·) else rest
  let c := c.along rest
  let body := match rest with
    | [] => some c
    | d :: ds => if isBreak d then some (c.pastBreak ds) else none
  body.bind fun c =>
    let indent := header.indentation.map (parent - 1 + ·)
    (blockFrom literal parent false ⟨indent, 0, [], [], [], false⟩ c c.rest).map
      fun (b, c) => (b.text header.chomping, c)

end FilterQuery.Yaml
