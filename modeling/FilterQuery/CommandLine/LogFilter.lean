import FilterQuery.Text.Alphanumeric
import FilterQuery.Text.Pieces
import FilterQuery.Text.Space

/-! # Log filters

A log filter says which events are wanted: directives between commas, each a level, or a target, a span
with fields in brackets, or both, and perhaps an equals sign and a level. The log library applies them;
here it is only decided which texts are filters at all, for a run with any other ends at once.
-/

namespace FilterQuery.CommandLine

/-- The names of the levels. Case does not count. -/
def levelNames : List String :=
  ["error", "warn", "info", "debug", "trace", "off"]

/-- The natural that a row of digits denotes; a plus may stand before it. -/
def levelNumber? (s : List Char) : Option Nat :=
  let ds := match s with
    | '+' :: ds => ds
    | ds => ds
  if ds ≠ [] ∧ ds.all Char.isDigit then
    some (ds.foldl (fun n d => 10 * n + (d.toNat - 0x30)) 0)
  else none

/-- A level: a name, or a number up to five. After an equals sign it may be left out. -/
def isLevel (s : List Char) : Bool :=
  s.isEmpty || (levelNumber? s).any (· ≤ 5) ||
    levelNames.any fun name => name.toList == s.map Char.toLower

/-- The fields of a span, from the opening brace on: what follows the bracket after them. -/
def afterFields? (s : List Char) : Option (List Char) :=
  match s.takeWhile (· != '\x7d'), s.dropWhile (· != '\x7d') with
  | _ :: _, '\x7d' :: ']' :: rest => some rest
  | _, _ => none

/-- A span, after its opening bracket: what follows it. -/
def afterSpan? (s : List Char) : Option (List Char) :=
  match s.dropWhile fun c => c != ']' && c != '\x7b' with
  | ']' :: rest => some rest
  | '\x7b' :: rest => afterFields? rest
  | _ => none

/-- The end of a directive: nothing, or an equals sign and a level. Blanks around the directive are
passed over only if it has no level. -/
def endsDirective (isTrimmed : Bool) : List Char → Bool
  | [] => true
  | '=' :: level => isTrimmed && isLevel level
  | _ => false

/-- A directive of a log filter. -/
def isDirective (s : List Char) : Bool :=
  -- Only a directive without a level may have blanks around it.
  let t := Text.trim s
  let ends := endsDirective (t == s)
  match t with
  | [] => false
  | '[' :: cs => (afterSpan? cs).any ends
  | c :: cs =>
    (Text.isAlphanumeric c || c == '-' || c == ':' || c == '_') &&
      match cs.dropWhile fun c => c != '=' && c != '[' with
      | '[' :: rest => (afterSpan? rest).any ends
      | rest => ends rest

/-- A log filter. -/
def isLogFilter (s : String) : Bool :=
  (Text.words ',' s.toList).all isDirective

end FilterQuery.CommandLine
