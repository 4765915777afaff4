import FilterQuery.Decimal.Shortest

/-! # Decimals as text

A layout says for which exponents of the first digit a decimal is written with a plain point, and
the rest are written with an exponent: `0.00001`, `1000.0`, but `1e-6` and `1.5e+300`.
-/

namespace FilterQuery

/-- The exponents of the first digit for which a decimal is written with a plain point. -/
structure Decimal.Layout where
  least : Int
  greatest : Int

namespace Decimal

/-- The decimal digits of a natural, without leading zeros; zero has one digit. -/
def naturalChars (n : Nat) : List Char :=
  Nat.toDigits 10 n

/-- A row of digits without the zeros it ends with. -/
def trimZeros (ds : List Char) : List Char :=
  (ds.reverse.dropWhile (· == '0')).reverse

/-- A plain decimal with at least one digit after the point; `e` is the exponent of the first
digit. -/
def pointChars (ds : List Char) (e : Int) : List Char :=
  if e < 0 then '0' :: '.' :: List.replicate (-e - 1).toNat '0' ++ ds
  else
    let whole := e.toNat + 1
    if ds.length ≤ whole then ds ++ List.replicate (whole - ds.length) '0' ++ ['.', '0']
    else ds.take whole ++ '.' :: ds.drop whole

/-- A decimal with an exponent, whose sign is always written. -/
def scientificChars (ds : List Char) (e : Int) : List Char :=
  let mantissa := match ds with
    | d :: f :: fs => d :: '.' :: f :: fs
    | ds => ds
  mantissa ++ 'e' :: (if e < 0 then '-' else '+') :: naturalChars e.natAbs

/-- The characters of a decimal in a layout. -/
def chars (layout : Layout) (d : Decimal) : List Char :=
  -- The digits may end with zeros, which count for the exponent but are not written.
  let all := naturalChars d.digits
  let e := d.exponent + (all.length - 1 : Nat)
  let ds := trimZeros all
  if layout.least ≤ e ∧ e ≤ layout.greatest then pointChars ds e else scientificChars ds e

end Decimal

namespace Binary64

/-- The characters of a number: its sign, and the shortest decimal that reads back. -/
def chars (layout : Decimal.Layout) (x : Binary64) : List Char :=
  let magnitude := if x.mantissa = 0 then ['0', '.', '0'] else x.shortest.chars layout
  if x.negative then '-' :: magnitude else magnitude

end Binary64

end FilterQuery
