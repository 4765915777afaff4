import FilterQuery.Json.Basic
import FilterQuery.Json.Token

/-! # Reading JSON

`Json.parse?` reads a JSON text into a document. It goes through the tokens once and keeps the
arrays and objects that are still open on a stack, so the nesting of a text is the height of the
stack and can be bounded. Of repeated member names the first position and the last value remain.
-/

namespace FilterQuery.Json

/-- An open array or object, with what it holds so far; items are kept in reverse. -/
inductive Frame where
  | array (items : List Json)
  /-- The member with the name `key` is being read. -/
  | object (members : List (String × Json)) (key : String)

/-- What the next token may be. `below` are the open arrays and objects, innermost first. -/
inductive Expecting where
  /-- A value. -/
  | value (below : List Frame)
  /-- The first item of an array, or its end. -/
  | firstItem (below : List Frame)
  /-- A comma, or the end of an array. -/
  | moreItems (items : List Json) (below : List Frame)
  /-- The first name of an object, or its end. -/
  | firstName (below : List Frame)
  /-- A name. -/
  | name (members : List (String × Json)) (below : List Frame)
  /-- The colon after a name. -/
  | colon (members : List (String × Json)) (key : String) (below : List Frame)
  /-- A comma, or the end of an object. -/
  | moreMembers (members : List (String × Json)) (below : List Frame)
  /-- Nothing: the document is complete. -/
  | nothing (document : Json)

namespace Expecting

/-- What is expected after a value, innermost frame first. -/
def afterValue (v : Json) : List Frame → Expecting
  | [] => nothing v
  | .array items :: below => moreItems (v :: items) below
  | .object members key :: below => moreMembers (Pairs.put key v members) below

/-- Begins a value, with at most `depth` arrays and objects open. -/
def beginValue (depth : Nat) (below : List Frame) : Token → Option Expecting
  | .null => some (afterValue .null below)
  | .bool b => some (afterValue (.bool b) below)
  | .number n => some (afterValue (.number n) below)
  | .string s => some (afterValue (.string s) below)
  | .openArray => if below.length < depth then some (firstItem below) else none
  | .openObject => if below.length < depth then some (firstName below) else none
  | _ => none

/-- Reads a token. -/
def step (depth : Nat) : Expecting → Token → Option Expecting
  | value below, t => beginValue depth below t
  | firstItem below, .closeArray => some (afterValue (.array []) below)
  | firstItem below, t => beginValue depth (.array [] :: below) t
  | moreItems items below, .comma => some (value (.array items :: below))
  | moreItems items below, .closeArray => some (afterValue (.array items.reverse) below)
  | firstName below, .closeObject => some (afterValue (.object []) below)
  | firstName below, .string key => some (colon [] key below)
  | name members below, .string key => some (colon members key below)
  | colon members key below, .colon => some (value (.object members key :: below))
  | moreMembers members below, .comma => some (name members below)
  | moreMembers members below, .closeObject => some (afterValue (.object members) below)
  | _, _ => none

/-- The document, if it is complete. -/
def document? : Expecting → Option Json
  | nothing v => some v
  | _ => none

end Expecting

/-- The document of a row of tokens, with at most `depth` arrays and objects inside one another. -/
def ofTokens? (depth : Nat) (tokens : List Token) : Option Json :=
  (tokens.foldlM (Expecting.step depth) (.value [])).bind Expecting.document?

/-- How deep arrays and objects of a configuration may be nested. -/
def maxDepth : Nat := 127

/-- The document of a JSON text, with at most `depth` arrays and objects inside one another. -/
def parseWithin? (depth : Nat) (s : List Char) : Option Json :=
  (Token.ofChars? s).bind (ofTokens? depth)

/-- The document of a JSON text. -/
def parse? (s : String) : Option Json :=
  parseWithin? maxDepth s.toList

end FilterQuery.Json
