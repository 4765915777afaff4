import FilterQuery.Yaml.Cursor

/-! # Plain scalars

A scalar without quotes goes on until a colon or comment that follows it, a flow indicator inside a
flow collection, a document marker, or a line that is indented less than its surroundings.
-/

namespace FilterQuery.Yaml

/-- A scalar that was read: its text, whether it ended after a break, and what follows. -/
structure PlainScalar where
  text : List Char
  endsLine : Bool
  cursor : Cursor

/-- The scalar ends before this text. -/
def plainEnds (inFlow : Bool) (c : Char) (cs : List Char) : Bool :=
  (c == ':' && endsWord cs) || (inFlow && isFlowIndicator c)

/-- Inside a flow collection a colon must not stand before an indicator. -/
def plainFails (inFlow : Bool) (c : Char) (cs : List Char) : Bool :=
  inFlow && c == ':' &&
    match cs with
    | d :: _ => d == '?' || isFlowIndicator d
    | [] => false

/-- Between two pieces of content: the scalar ends before this piece. -/
def plainEndsAfterGap (inFlow : Bool) (indent : Nat) (gap : Gap) (pos : Cursor) (c : Char) :
    Bool :=
  (gap.hasBreak && !inFlow && pos.column < indent) ||
    (pos.column == 0 && startsWithMarker pos.rest) || c == '#'

/-- Reads the rest of a plain scalar. `out` is the content so far, in reverse. -/
def plainFrom (inFlow : Bool) (indent : Nat) (out : List Char) (gap : Gap) (pos : Cursor) :
    List Char → Option PlainScalar
  | [] => some ⟨out.reverse, gap.hasBreak, { pos with rest := [] }⟩
  | c :: cs =>
    let here := { pos with rest := c :: cs }
    if isBlank c then
      -- A tab cannot indent.
      if gap.hasBreak && c == '\t' && pos.column < indent then none
      else plainFrom inFlow indent out (gap.addBlank c) (here.past cs) cs
    else if isBreak c then
      plainFrom inFlow indent out (gap.addBreak c) (here.pastBreak cs) cs
    else
      let inGap := match gap with
        | .blanks [] => false
        | _ => true
      if inGap && plainEndsAfterGap inFlow indent gap here c then
        some ⟨out.reverse, gap.hasBreak, here⟩
      else if plainFails inFlow c cs then none
      else if plainEnds inFlow c cs then some ⟨out.reverse, gap.hasBreak, here⟩
      else plainFrom inFlow indent (c :: (gap.folded ++ out)) .none (here.past cs) cs

/-- Reads a plain scalar, whose later lines are indented by at least `indent`. -/
def plainScalar? (inFlow : Bool) (indent : Nat) (c : Cursor) : Option PlainScalar :=
  plainFrom inFlow indent [] .none c c.rest

end FilterQuery.Yaml
