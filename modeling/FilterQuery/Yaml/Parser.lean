import FilterQuery.Yaml.Layout
import FilterQuery.Yaml.Node
import FilterQuery.Yaml.Schema

/-! # Reading YAML

`Yaml.parse?` reads a YAML text into a document. Aliases are replaced by the nodes they stand for. So
that a short text cannot denote a huge document, collections may be nested 128 deep, and the number
of aliases that are followed is bounded by the size of the text's tree.
-/

namespace FilterQuery.Yaml

namespace Node

mutual

/-- The anchored nodes of a tree with their numbers, in the order in which they begin. -/
def anchored : Node → List (Nat × Node)
  | reference _ => []
  | scalar p plain text => (p.anchor.map fun n => (n, scalar p plain text)).toList
  | sequence p items =>
    (p.anchor.map fun n => (n, sequence p items)).toList ++ anchoredItems items
  | mapping p pairs =>
    (p.anchor.map fun n => (n, mapping p pairs)).toList ++ anchoredPairs pairs

/-- The anchored nodes of several trees. -/
def anchoredItems : List Node → List (Nat × Node)
  | [] => []
  | v :: vs => v.anchored ++ anchoredItems vs

/-- The anchored nodes of pairs of trees. -/
def anchoredPairs : List (Node × Node) → List (Nat × Node)
  | [] => []
  | (k, v) :: ps => k.anchored ++ v.anchored ++ anchoredPairs ps

end

mutual

/-- The size of a tree: scalars and aliases count once, collections twice. -/
def size : Node → Nat
  | reference _ | scalar .. => 1
  | sequence _ items => 2 + sizeItems items
  | mapping _ pairs => 2 + sizePairs pairs

/-- The size of several trees. -/
def sizeItems : List Node → Nat
  | [] => 0
  | v :: vs => v.size + sizeItems vs

/-- The size of pairs of trees. -/
def sizePairs : List (Node × Node) → Nat
  | [] => 0
  | (k, v) :: ps => k.size + v.size + sizePairs ps

end

/-! ## Values -/

/-- Follows aliases, or fails; the state is how many more may be followed. -/
abbrev Following := StateT Nat Option

/-- The node that a node stands for: itself, unless it is an alias. Of several anchored nodes of one
number the last counts. -/
def target (anchors : List (Nat × Node)) : Node → Following Node
  | reference n => do
    let left ← get
    if left = 0 then failure
    else
      set (left - 1)
      match anchors.reverse.find? (·.1 == n) with
      | some (_, v) => return v
      | none => failure
  | v => return v

/-- The text of a key. -/
def keyText (anchors : List (Nat × Node)) (k : Node) : Following String := do
  match ← target anchors k with
  | scalar _ _ text => return String.ofList text
  | _ => failure

/-- The value of a node, which may hold `depth` collections inside one another. -/
def valueWithin (anchors : List (Nat × Node)) : Nat → Node → Following Json
  | 0, v => do
    match ← target anchors v with
    | scalar p plain text => (scalarValue? p.tag plain text : Option Json)
    | _ => failure
  | depth + 1, v => do
    match ← target anchors v with
    | scalar p plain text => (scalarValue? p.tag plain text : Option Json)
    | sequence p items =>
      if isForeign p.tag then failure
      else .array <$> items.mapM (valueWithin anchors depth)
    -- A repeated key keeps its place and takes the last value.
    | mapping p pairs =>
      if isForeign p.tag then failure
      else
        .object <$> pairs.foldlM (fun members (k, v) => do
          let name ← keyText anchors k
          return Pairs.put name (← valueWithin anchors depth v) members) []
    | reference _ => failure

/-- How deep collections may be nested. -/
def maxDepth : Nat := 128

/-- The value of the node of a document. -/
def value? (v : Node) : Option Json :=
  ((valueWithin v.anchored maxDepth v).run (100 * v.size)).map Prod.fst

end Node

/-- The document of a YAML text. -/
def parse? (s : String) : Option Json :=
  ((Token.ofChars? s.toList).bind Node.ofTokens?).bind Node.value?

end FilterQuery.Yaml
