import FilterQuery.Json.Basic
import FilterQuery.Text.Hex
import FilterQuery.Text.Utf8

/-! # What scalars stand for

A scalar without quotes may be a null, a boolean, an integer or a decimal; every other scalar is the
text that it is written with. Digits after a leading zero are text as well. A tag can ask for one of
the four kinds.
-/

namespace FilterQuery.Yaml

/-- The words for null. A scalar that is left out is null as well. -/
def nullWords : List (List Char) :=
  ["null", "Null", "NULL", "~"].map String.toList

/-- The boolean that a word stands for. -/
def bool? (s : List Char) : Option Bool :=
  if s ∈ ["true", "True", "TRUE"].map String.toList then some true
  else if s ∈ ["false", "False", "FALSE"].map String.toList then some false
  else none

/-! ## Integers -/

/-- The natural that a row of digits of a base denotes. -/
def naturalIn? (base : Nat) (ds : List Char) : Option Nat :=
  if ds = [] then none
  else
    ds.foldlM (fun n d => ((Text.hexValue? d).filter (· < base)).map (base * n + ·)) 0

/-- Digits after a leading zero. -/
def isPadded : List Char → Bool
  | '0' :: d :: ds => (d :: ds).all Char.isDigit
  | _ => false

/-- The natural that a scalar without sign denotes: in decimal, or in the base that a letter after a
zero names. -/
def natural? : List Char → Option Nat
  | '0' :: 'x' :: ds => naturalIn? 16 ds
  | '0' :: 'o' :: ds => naturalIn? 8 ds
  | '0' :: 'b' :: ds => naturalIn? 2 ds
  | ds => if isPadded ds then none else naturalIn? 10 ds

/-- A scalar without its sign, and whether that is a minus. -/
def splitSign : List Char → Bool × List Char
  | '-' :: s => (true, s)
  | '+' :: s => (false, s)
  | s => (false, s)

/-- The integer that a scalar denotes. -/
def integer? (s : List Char) : Option Int :=
  let (negative, s) := splitSign s
  (natural? s).map fun n => if negative then -(n : Int) else n

/-- The integer fits a signed or an unsigned word of so many bits. -/
def fits (bits : Nat) (n : Int) : Bool :=
  -((1 <<< (bits - 1) : Nat) : Int) ≤ n && n < ((1 <<< bits : Nat) : Int)

/-- The value of an integer that a document holds. There is none for an integer that needs between
65 and 128 bits; a longer one is read as a decimal. -/
def integerValue (n : Int) : Option Json :=
  if fits 64 n then some (.number (.integer n)) else none

/-! ## Decimals -/

/-- The number nearest to `digits * 10 ^ exponent`, unless it is past the largest one. No number has
a decimal exponent of more than four hundred, either way. -/
def nearest? (negative : Bool) (digits : Nat) (length : Nat) (exponent : Int) :
    Option Binary64 :=
  if digits = 0 ∨ exponent + (length : Int) < -400 then some (.zero negative)
  else if 400 < exponent then none
  else Binary64.ofRatio? negative (digits * powerOfTen exponent.toNat)
    (powerOfTen (-exponent).toNat)

/-- The number nearest to a decimal, whose point may stand at either end. -/
def decimal? (s : List Char) : Option Binary64 := do
  let (negative, s) := splitSign s
  -- The row of digits before the point may be empty, and so may the one after it, but not both.
  let whole := s.takeWhile Char.isDigit
  let (fraction, s) := match s.dropWhile Char.isDigit with
    | '.' :: s => (s.takeWhile Char.isDigit, s.dropWhile Char.isDigit)
    | s => ([], s)
  let digits := whole ++ fraction
  if digits = [] then none else
  let exponent ← match s with
    | [] => some 0
    | c :: s => if c = 'e' ∨ c = 'E' then Number.exponent? s else none
  nearest? negative (Number.naturalOf digits) digits.length
    (exponent - (fraction.length : Int))

/-- The words for numbers that are not finite. -/
def infiniteWords : List (List Char) :=
  [".inf", ".Inf", ".INF", "+.inf", "+.Inf", "+.INF", "-.inf", "-.Inf", "-.INF",
    ".nan", ".NaN", ".NAN"].map String.toList

/-- The value of a scalar that denotes a real number. A number that is not finite becomes null. -/
def real? (s : List Char) : Option Json :=
  if s ∈ infiniteWords then some .null
  else (decimal? s).map fun x => .number (.double x)

/-! ## Scalars -/

/-- The value of a scalar with neither quotes nor tag. -/
def plainValue? (s : List Char) : Option Json :=
  if s = [] ∨ s ∈ nullWords then some .null
  else
    match bool? s, (integer? s).filter (fits 128) with
    | some b, _ => some (.bool b)
    | none, some n => integerValue n
    | none, none =>
      if isPadded (splitSign s).2 then some (.string (String.ofList s))
      else some ((real? s).getD (.string (String.ofList s)))

/-- A text that stands for itself without quotes, and not by grace of a leading zero. -/
def isPlainText (s : List Char) : Bool :=
  match plainValue? s with
  | some (.string _) => !isPadded (splitSign s).2
  | _ => false

/-- The kinds of scalars that a tag can ask for. -/
inductive ScalarKind where
  | null
  | bool
  | integer
  | real
  deriving DecidableEq

namespace ScalarKind

/-- The beginning of the tags of the standard types. -/
def namespaceTag : List Char := "tag:yaml.org,2002:".toList

/-- The tag of a kind. -/
def tag : ScalarKind → List UInt8
  | null => Utf8.encode (namespaceTag ++ "null".toList)
  | bool => Utf8.encode (namespaceTag ++ "bool".toList)
  | integer => Utf8.encode (namespaceTag ++ "int".toList)
  | real => Utf8.encode (namespaceTag ++ "float".toList)

/-- The kind that a tag asks for. -/
def ofTag? (t : List UInt8) : Option ScalarKind :=
  [null, bool, integer, real].find? (·.tag == t)

/-- The value of a scalar of a kind. -/
def value? (s : List Char) : ScalarKind → Option Json
  | null => if s ∈ nullWords then some .null else none
  | bool => (bool? s).map .bool
  | integer => ((integer? s).filter (fits 128)).bind integerValue
  | real => real? s

end ScalarKind

/-- The name of a local tag, which is what follows the mark that it begins with. A lone mark is a
local tag without a name. -/
def localName? : List UInt8 → Option (List UInt8)
  | 0x21 :: name => some name
  | _ => none

/-- The tag gives its node a meaning that no document has: it is local, and its name is a text. -/
def isForeign (tag : Option (List UInt8)) : Bool :=
  (tag.bind localName?).any Utf8.isText

/-- The value of a scalar. A local tag whose name is no text says nothing about it. -/
def scalarValue? (tag : Option (List UInt8)) (plain : Bool) (s : List Char) : Option Json :=
  if isForeign tag then none
  else
    match tag.filter fun t => (localName? t).isNone with
    | none => if plain then plainValue? s else some (.string (String.ofList s))
    | some t =>
      match ScalarKind.ofTag? t with
      | some kind => kind.value? s
      | none => some (.string (String.ofList s))

end FilterQuery.Yaml
