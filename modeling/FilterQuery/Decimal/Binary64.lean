/-! # Binary64 numbers

The finite numbers of the binary64 format as exact values `mantissa * 2 ^ exponent`, and rounding
of a quotient of naturals to the nearest of them. All arithmetic is on naturals, so every result
can be computed inside a proof.

* `roundHalfEven_bounds`   the rounded quotient is one of the neighbours of the quotient
* `rounded_spec`   a rounded quotient has a mantissa and an exponent of the format
-/

namespace FilterQuery

/-- The natural `10 ^ k`. -/
def powerOfTen (k : Nat) : Nat := Nat.pow 10 k

/-- The nearest natural to `num / den`; of two equally near ones the even one. -/
def roundHalfEven (num den : Nat) : Nat :=
  let q := num / den
  let r := num % den
  if 2 * r < den then q
  else if den < 2 * r then q + 1
  else if q % 2 = 0 then q
  else q + 1

/-- A finite binary64 number. Its mantissa has exactly 53 bits, or fewer with the least exponent. -/
structure Binary64 where
  negative : Bool
  mantissa : Nat
  exponent : Int
  mantissa_lt : mantissa < 1 <<< 53
  least_le : -1074 ≤ exponent
  le_greatest : exponent ≤ 971
  normal : 1 <<< 52 ≤ mantissa ∨ exponent = -1074
  deriving DecidableEq

namespace Binary64

/-- Zero, with a sign. -/
def zero (negative : Bool) : Binary64 :=
  ⟨negative, 0, -1074, by decide, by decide, by decide, .inr rfl⟩

/-- The quotient `num / den` divided by `2 ^ e`, as numerator and denominator. -/
def shifted (num den : Nat) (e : Int) : Nat × Nat :=
  if 0 ≤ e then (num, den <<< e.toNat) else (num <<< (-e).toNat, den)

/-- The exponent with which `num / den` has 53 bits, or the least exponent if that is greater. -/
def roundingExponent (num den : Nat) : Int :=
  let magnitude : Int := (Nat.log2 num : Int) - (Nat.log2 den : Int)
  -- The quotient lies between 2 ^ (magnitude - 1) and 2 ^ (magnitude + 1), so the exponent is one
  -- of two neighbours.
  let low := max (magnitude - 53) (-1074)
  let (n, d) := shifted num den low
  if 1 <<< 53 ≤ n / d then low + 1 else low

/-- The mantissa and the exponent nearest to `num / den`, of two equally near ones the one with the even
mantissa. The exponent may be past the greatest. -/
def rounded (num den : Nat) : Nat × Int :=
  let e := roundingExponent num den
  let (n, d) := shifted num den e
  let m := roundHalfEven n d
  -- Rounding up may give one bit too many.
  if m = 1 <<< 53 then (1 <<< 52, e + 1) else (m, e)

/-! ## Rounding -/

/-- The rounded quotient is one of the two neighbours of the quotient. -/
theorem roundHalfEven_bounds (num den : Nat) :
    num / den ≤ roundHalfEven num den ∧ roundHalfEven num den ≤ num / den + 1 := by
  simp only [roundHalfEven]
  split
  · omega
  · split
    · omega
    · split <;> omega

/-- Both parts of a shifted quotient without a case distinction. -/
private theorem shifted_eq (num den : Nat) (e : Int) :
    shifted num den e = (num <<< (-e).toNat, den <<< e.toNat) := by
  unfold shifted
  split
  case isTrue h =>
    have hzero : (-e).toNat = 0 := by omega
    rw [hzero, Nat.shiftLeft_zero]
  case isFalse h =>
    have hzero : e.toNat = 0 := by omega
    rw [hzero, Nat.shiftLeft_zero]

section

variable {num den : Nat} {e : Int} {k : Nat}

/-- A quotient shifted to its magnitude, or beyond, has few bits. -/
private theorem shifted_lt (hden : den ≠ 0)
    (h : (Nat.log2 num : Int) - Nat.log2 den + 1 ≤ k + e) :
    (shifted num den e).1 / (shifted num den e).2 < 1 <<< k := by
  have hnum : num < 2 ^ (Nat.log2 num + 1) := Nat.lt_log2_self
  have hlow := Nat.log2_self_le hden
  have hpow : 2 ^ (Nat.log2 num + 1 + (-e).toNat) ≤ 2 ^ (k + Nat.log2 den + e.toNat) :=
    Nat.pow_le_pow_right (by decide) (by omega)
  simp only [shifted_eq, Nat.shiftLeft_eq, Nat.one_mul]
  rw [Nat.div_lt_iff_lt_mul (Nat.mul_pos (Nat.pos_of_ne_zero hden) (Nat.two_pow_pos _))]
  calc num * 2 ^ (-e).toNat
      < 2 ^ (Nat.log2 num + 1) * 2 ^ (-e).toNat := Nat.mul_lt_mul_of_pos_right hnum (Nat.two_pow_pos _)
    _ = 2 ^ (Nat.log2 num + 1 + (-e).toNat) := (Nat.pow_add ..).symm
    _ ≤ 2 ^ (k + Nat.log2 den + e.toNat) := hpow
    _ = 2 ^ k * 2 ^ Nat.log2 den * 2 ^ e.toNat := by rw [Nat.pow_add, Nat.pow_add]
    _ ≤ 2 ^ k * (den * 2 ^ e.toNat) := by
      rw [Nat.mul_assoc]
      exact Nat.mul_le_mul_left _ (Nat.mul_le_mul_right _ hlow)

/-- A quotient shifted short of its magnitude has many. -/
private theorem le_shifted (hnum : num ≠ 0) (hden : den ≠ 0)
    (h : k + e + 1 ≤ (Nat.log2 num : Int) - Nat.log2 den) :
    1 <<< k ≤ (shifted num den e).1 / (shifted num den e).2 := by
  have hlow := Nat.log2_self_le hnum
  have hden' : den < 2 ^ (Nat.log2 den + 1) := Nat.lt_log2_self
  have hpow : 2 ^ (k + (Nat.log2 den + 1) + e.toNat) ≤ 2 ^ (Nat.log2 num + (-e).toNat) :=
    Nat.pow_le_pow_right (by decide) (by omega)
  simp only [shifted_eq, Nat.shiftLeft_eq, Nat.one_mul]
  rw [Nat.le_div_iff_mul_le (Nat.mul_pos (Nat.pos_of_ne_zero hden) (Nat.two_pow_pos _))]
  calc 2 ^ k * (den * 2 ^ e.toNat)
      ≤ 2 ^ k * (2 ^ (Nat.log2 den + 1) * 2 ^ e.toNat) :=
        Nat.mul_le_mul_left _ (Nat.mul_le_mul_right _ (Nat.le_of_lt hden'))
    _ = 2 ^ (k + (Nat.log2 den + 1) + e.toNat) := by
      rw [← Nat.mul_assoc, ← Nat.pow_add, ← Nat.pow_add]
    _ ≤ 2 ^ (Nat.log2 num + (-e).toNat) := hpow
    _ = 2 ^ Nat.log2 num * 2 ^ (-e).toNat := Nat.pow_add ..
    _ ≤ num * 2 ^ (-e).toNat := Nat.mul_le_mul_right _ hlow

/-- One place more takes one bit off. -/
private theorem le_shifted_succ (hden : den ≠ 0)
    (h : 1 <<< (k + 1) ≤ (shifted num den e).1 / (shifted num den e).2) :
    1 <<< k ≤ (shifted num den (e + 1)).1 / (shifted num den (e + 1)).2 := by
  have hpos : ∀ e : Int, 0 < den * 2 ^ e.toNat :=
    fun e => Nat.mul_pos (Nat.pos_of_ne_zero hden) (Nat.two_pow_pos _)
  have hexponent : (-e).toNat + (e + 1).toNat = (-(e + 1)).toNat + e.toNat + 1 := by omega
  have hcross : num * 2 ^ (-e).toNat * (2 ^ (e + 1).toNat) =
      num * 2 ^ (-(e + 1)).toNat * 2 ^ e.toNat * 2 := by
    rw [Nat.mul_assoc, ← Nat.pow_add, hexponent, Nat.pow_succ, Nat.pow_add]
    ac_rfl
  simp only [shifted_eq, Nat.shiftLeft_eq, Nat.one_mul] at h ⊢
  rw [Nat.le_div_iff_mul_le (hpos _)] at h ⊢
  have hscaled := Nat.mul_le_mul_right (2 ^ (e + 1).toNat) h
  rw [hcross, Nat.pow_succ] at hscaled
  apply Nat.le_of_mul_le_mul_right _ (Nat.mul_pos (Nat.two_pow_pos e.toNat) (by decide : 0 < 2))
  calc 2 ^ k * (den * 2 ^ (e + 1).toNat) * (2 ^ e.toNat * 2)
      = 2 ^ k * 2 * (den * 2 ^ e.toNat) * 2 ^ (e + 1).toNat := by ac_rfl
    _ ≤ num * 2 ^ (-(e + 1)).toNat * 2 ^ e.toNat * 2 := hscaled
    _ = num * 2 ^ (-(e + 1)).toNat * (2 ^ e.toNat * 2) := Nat.mul_assoc ..

end

/-- With this exponent a quotient has 53 bits, or fewer if it is the least. -/
private theorem roundingExponent_spec {num den : Nat} (hnum : num ≠ 0) (hden : den ≠ 0) :
    (shifted num den (roundingExponent num den)).1 / (shifted num den (roundingExponent num den)).2 <
        1 <<< 53 ∧
      -1074 ≤ roundingExponent num den ∧
      (1 <<< 52 ≤ (shifted num den (roundingExponent num den)).1 /
        (shifted num den (roundingExponent num den)).2 ∨ roundingExponent num den = -1074) := by
  unfold roundingExponent
  generalize hmagnitude : (Nat.log2 num : Int) - Nat.log2 den = magnitude
  simp only
  generalize hlow : max (magnitude - 53) (-1074) = low
  split
  case isTrue hlarge =>
    exact ⟨shifted_lt hden (by omega), by omega, .inl (le_shifted_succ hden hlarge)⟩
  case isFalse hsmall =>
    refine ⟨Nat.not_le.1 hsmall, by omega, ?_⟩
    -- Short of the least exponent the magnitude alone says how many bits there are.
    by_cases hleast : low = -1074
    · exact .inr hleast
    · exact .inl (le_shifted hnum hden (by omega))

/-- A rounded quotient has a mantissa and an exponent of the format, unless the exponent is too large. -/
theorem rounded_spec {num den : Nat} (hnum : num ≠ 0) (hden : den ≠ 0) :
    (rounded num den).1 < 1 <<< 53 ∧ -1074 ≤ (rounded num den).2 ∧
      (1 <<< 52 ≤ (rounded num den).1 ∨ (rounded num den).2 = -1074) := by
  have hbits : 1 <<< 52 < 1 <<< 53 := by decide
  obtain ⟨hlt, hleast, hnormal⟩ := roundingExponent_spec hnum hden
  unfold rounded
  simp only
  generalize roundingExponent num den = e at hlt hleast hnormal
  have hbounds := roundHalfEven_bounds (shifted num den e).1 (shifted num den e).2
  split
  case isTrue hcarry =>
    show 1 <<< 52 < 1 <<< 53 ∧ -1074 ≤ e + 1 ∧ (1 <<< 52 ≤ 1 <<< 52 ∨ e + 1 = -1074)
    omega
  case isFalse hcarry =>
    show _ < 1 <<< 53 ∧ -1074 ≤ e ∧ (1 <<< 52 ≤ _ ∨ e = -1074)
    omega

/-! ## Arithmetic -/

/-- The binary64 number nearest to `num / den`, of two equally near ones the one with the even
mantissa. There is none when the quotient rounds past the largest finite number, and none for a quotient
by zero. -/
def ofRatio? (negative : Bool) (num den : Nat) : Option Binary64 :=
  if hnum : num = 0 then some (zero negative)
  else if hden : den = 0 then none
  else if h : (rounded num den).2 ≤ 971 then
    have hspec := rounded_spec hnum hden
    some ⟨negative, (rounded num den).1, (rounded num den).2, hspec.1, hspec.2.1, h, hspec.2.2⟩
  else none

/-- The numerator of the magnitude as a quotient. -/
def num (x : Binary64) : Nat := x.mantissa <<< x.exponent.toNat

/-- The denominator of the magnitude as a quotient. -/
def den (x : Binary64) : Nat := 1 <<< (-x.exponent).toNat

/-- The nearest number to a natural. -/
def ofNat? (negative : Bool) (n : Nat) : Option Binary64 :=
  ofRatio? negative n 1

/-- The rounded product, with the sign of the first factor. -/
def scale? (x y : Binary64) : Option Binary64 :=
  ofRatio? x.negative (x.num * y.num) (x.den * y.den)

/-- The rounded quotient, with the sign of the dividend. -/
def divide? (x y : Binary64) : Option Binary64 :=
  ofRatio? x.negative (x.num * y.den) (x.den * y.num)

end Binary64

end FilterQuery
