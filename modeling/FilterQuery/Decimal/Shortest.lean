import FilterQuery.Decimal.Binary64

/-! # Shortest decimals

The fewest decimal digits that read back as a given binary64 number, and among decimals of that
length the nearest to the number. A decimal reads back when it lies in the interval of reals that
round to the number. For each number of digits only the two neighbours of the number on that
decimal grid are tried: if any point of the grid lies in the interval, so does one of these.
-/

namespace FilterQuery

/-- The decimal `digits * 10 ^ exponent`. -/
structure Decimal where
  digits : Nat
  exponent : Int
  deriving DecidableEq

namespace Binary64

/-- The bounds of the interval of reals that round to the magnitude, and the magnitude, all in
quarters of a unit of the last place. The lower half is narrower below a power of two. -/
def quarters (x : Binary64) : Nat × Nat × Nat :=
  let v := 4 * x.mantissa
  (if x.mantissa = 1 <<< 52 ∧ -1074 < x.exponent then v - 1 else v - 2, v, v + 2)

/-- Compares `a` quarters of a unit of the last place with `n * 10 ^ p`: both are brought to a
common denominator. -/
def sides (x : Binary64) (a n : Nat) (p : Int) : Nat × Nat :=
  let e := x.exponent - 2
  ((a <<< e.toNat) * powerOfTen (-p).toNat, (n * powerOfTen p.toNat) <<< (-e).toNat)

/-- The decimal `n * 10 ^ p` reads back as the number. The ends of the interval count when the
mantissa is even. -/
def readsBack (x : Binary64) (n : Nat) (p : Int) : Bool :=
  let (low, _, high) := x.quarters
  let (l, m) := x.sides low n p
  let (h, m') := x.sides high n p
  if x.mantissa % 2 = 0 then l ≤ m && m' ≤ h else l < m && m' < h

/-- The largest `n` with `n * 10 ^ p` at most the magnitude. -/
def floorOn (x : Binary64) (p : Int) : Nat :=
  let (v, unit) := x.sides (4 * x.mantissa) 1 p
  v / unit

/-- The upper of two neighbours on a grid is strictly nearer to the number than the lower. -/
def upperIsNearer (x : Binary64) (n : Nat) (p : Int) : Bool :=
  let (v, m) := x.sides (8 * x.mantissa) (2 * n + 1) p
  m < v

/-- The neighbour of the number on the grid of multiples of `10 ^ p` that reads back, the nearer
one if both do. -/
def onGrid? (x : Binary64) (p : Int) : Option Nat :=
  let n := x.floorOn p
  match x.readsBack n p, x.readsBack (n + 1) p with
  | true, true => some (if x.upperIsNearer n p then n + 1 else n)
  | true, false => some n
  | false, true => some (n + 1)
  | false, false => none

/-- The exponent of the first decimal digit of the magnitude. -/
def leadingExponent (x : Binary64) : Int :=
  -- The binary logarithm times the decimal logarithm of two is off by one at most.
  let guess := ((Nat.log2 x.num : Int) - (Nat.log2 x.den : Int)) * 30103 / 100000
  if 1 ≤ x.floorOn (guess + 1) then guess + 1
  else if 1 ≤ x.floorOn guess then guess
  else guess - 1

/-- The first grid, from the coarsest on, with a decimal that reads back. -/
def firstOn (x : Binary64) : List Int → Option Decimal
  | [] => none
  | p :: ps =>
    match x.onGrid? p with
    | some n => some ⟨n, p⟩
    | none => firstOn x ps

/-- The grids that give one to seventeen digits. -/
def grids (x : Binary64) : List Int :=
  (List.range 17).map fun (i : Nat) => x.leadingExponent - (i : Int)

/-- The shortest decimal that reads back as the magnitude of a number other than zero. -/
def shortest (x : Binary64) : Decimal :=
  (x.firstOn x.grids).getD ⟨0, 0⟩

/-- A decimal that is found on a grid reads back. -/
theorem readsBack_of_onGrid? {x : Binary64} {p : Int} {n : Nat} (h : x.onGrid? p = some n) :
    x.readsBack n p := by
  unfold onGrid? at h
  simp only at h
  split at h
  · rename_i h₁ h₂
    split at h <;> simp only [Option.some.injEq] at h <;> subst h <;> assumption
  · simp_all
  · simp_all
  · simp at h

/-- The first decimal found on a row of grids reads back. -/
theorem readsBack_of_firstOn {x : Binary64} {ps : List Int} {d : Decimal}
    (h : x.firstOn ps = some d) : x.readsBack d.digits d.exponent := by
  induction ps with
  | nil => simp [firstOn] at h
  | cons p ps ih =>
    rw [firstOn] at h
    split at h
    · rename_i n hn
      simp only [Option.some.injEq] at h
      subst h
      exact readsBack_of_onGrid? hn
    · exact ih h

end Binary64

end FilterQuery
