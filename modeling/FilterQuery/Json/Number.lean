import FilterQuery.Decimal.Layout

/-! # Numbers of documents

A number of a document is an integer when it fits 64 bits, signed or unsigned, and a binary64
number otherwise. `Number.ofLiteral?` reads the number literals of JSON, `Number.text` writes
numbers back.

A literal that is no such integer is read in the way of fast number readers: the digits that fit
an unsigned 64-bit word are gathered, and the word is multiplied or divided by a power of ten, each
step rounded to the nearest binary64 number.
-/

namespace FilterQuery

/-- A number of a document. -/
inductive Number where
  /-- An integer that fits a signed or an unsigned 64-bit word. -/
  | integer (value : Int)
  | double (value : Binary64)
  deriving DecidableEq

namespace Number

/-- A double is written with a plain point when its first digit stands between the fifth place
after the point and the sixteenth before it. -/
def layout : Decimal.Layout := ⟨-5, 15⟩

/-- The characters of a number: an integer in decimal, a double by its shortest digits. -/
def chars : Number → List Char
  | integer n => (if n < 0 then ['-'] else []) ++ Decimal.naturalChars n.natAbs
  | double x => x.chars layout

/-- A number as text. -/
def text (n : Number) : String :=
  String.ofList n.chars

/-! ## Reading literals -/

/-- The parts of a number literal. -/
structure Literal where
  negative : Bool
  /-- The digits before the point. -/
  whole : List Char
  /-- The digits after the point. -/
  fraction : List Char
  /-- The power of ten, if one is written. -/
  exponent : Option Int
  /-- A point is written. -/
  hasPoint : Bool

/-- The natural that a row of decimal digits denotes. -/
def naturalOf (ds : List Char) : Nat :=
  ds.foldl (fun n d => 10 * n + (d.toNat - 0x30)) 0

/-- A row of digits at the beginning of a text, if there is one, and what follows it. -/
def digits? (s : List Char) : Option (List Char × List Char) :=
  match s.takeWhile Char.isDigit with
  | [] => none
  | d :: ds => some (d :: ds, s.dropWhile Char.isDigit)

/-- The power of ten that a literal ends with. -/
def exponent? (s : List Char) : Option Int :=
  let (negative, s) := match s with
    | '-' :: s => (true, s)
    | '+' :: s => (false, s)
    | s => (false, s)
  match digits? s with
  | some (ds, []) => some (if negative then -(naturalOf ds : Int) else naturalOf ds)
  | _ => none

/-- The parts of a number literal behind the digits before the point. A digit stands on either side of
the point. -/
def Literal.behindWhole? (negative : Bool) (whole s : List Char) : Option Literal := do
  let (fraction, s, hasPoint) ← match s with
    | '.' :: s => (digits? s).map fun (ds, s) => (ds, s, true)
    | s => some ([], s, false)
  match s with
  | [] => some ⟨negative, whole, fraction, none, hasPoint⟩
  | e :: s =>
    if e = 'e' ∨ e = 'E' then
      (exponent? s).map fun x => ⟨negative, whole, fraction, some x, hasPoint⟩
    else none

/-- Splits a number literal into its parts. There is no leading zero before another digit. -/
def Literal.ofChars? (s : List Char) : Option Literal := do
  let (negative, s) := match s with
    | '-' :: s => (true, s)
    | s => (false, s)
  let (whole, s) ← digits? s
  if whole.head? = some '0' ∧ whole.length ≠ 1 then none else
  behindWhole? negative whole s

/-- Appends digits to a word as long as it fits 64 bits. Every digit from the first that does not
fit on counts as a factor of ten instead. -/
def gatherWhole (word : Nat) : List Char → Nat × Int
  | [] => (word, 0)
  | d :: ds =>
    let next := 10 * word + (d.toNat - 0x30)
    if next < 1 <<< 64 then gatherWhole next ds else (word, (ds.length + 1 : Nat))

/-- Appends digits after the point to a word as long as it fits 64 bits, dividing by ten for each.
The digits from the first that does not fit on are dropped. -/
def gatherFraction (word : Nat) : List Char → Nat × Int
  | [] => (word, 0)
  | d :: ds =>
    -- A digit after the point lowers the exponent; digits past the word are dropped.
    let next := 10 * word + (d.toNat - 0x30)
    if next < 1 <<< 64 then
      let (word, e) := gatherFraction next ds
      (word, e - 1)
    else (word, 0)

/-- The number nearest to a power of ten up to `10 ^ 308`. -/
def nearestPowerOfTen? (k : Nat) : Option Binary64 :=
  Binary64.ofNat? false (powerOfTen k)

/-- Multiplies by `10 ^ e`, one rounded step at a time: powers beyond `10 ^ 308` are past the
largest number, and a division by more than `10 ^ 308` takes two steps, of which the second gives
zero if it is still by more than that. -/
def timesPowerOfTen? (x : Binary64) (e : Int) : Option Binary64 :=
  if x.mantissa = 0 then some x
  else if 308 < e then none
  else if 0 ≤ e then (nearestPowerOfTen? e.toNat).bind x.scale?
  else if -308 ≤ e then (nearestPowerOfTen? (-e).toNat).bind x.divide?
  else if -616 ≤ e then do
    let y ← (nearestPowerOfTen? 308).bind x.divide?
    (nearestPowerOfTen? (-e - 308).toNat).bind y.divide?
  else some (.zero x.negative)

/-- The double that a literal denotes. -/
def Literal.double? (l : Literal) : Option Binary64 := do
  let (word, e) := gatherWhole 0 l.whole
  let (word, e') := gatherFraction word l.fraction
  let x ← Binary64.ofNat? l.negative word
  timesPowerOfTen? x (e + e' + l.exponent.getD 0)

/-- A natural with a sign as an integer, if it fits 64 bits. The negative zero is none. -/
def integer? (negative : Bool) (n : Nat) : Option Int :=
  if negative then
    if 1 ≤ n ∧ n ≤ 1 <<< 63 then some (-(n : Int)) else none
  else
    if n < 1 <<< 64 then some n else none

/-- The number that a literal denotes, unless it is too large for a double. -/
def Literal.number? (l : Literal) : Option Number :=
  if l.hasPoint ∨ l.exponent.isSome then l.double?.map .double
  else
    match integer? l.negative (naturalOf l.whole) with
    | some n => some (.integer n)
    | none => l.double?.map .double

/-- The number that the characters of a literal denote. -/
def ofLiteral? (s : List Char) : Option Number :=
  (Literal.ofChars? s).bind Literal.number?

end Number

end FilterQuery
