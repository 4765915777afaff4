import FilterQuery.Decimal.Shortest
import Mathlib.Algebra.Order.Field.Power
import Mathlib.Algebra.Order.Field.Rat
import Mathlib.Tactic.FieldSimp
import Mathlib.Tactic.Linarith
import Mathlib.Tactic.NormNum
import Mathlib.Tactic.Positivity
import Mathlib.Tactic.Ring

/-!
# Shortest decimals

The shortest decimal of a binary64 number is searched grid by grid, with comparisons of naturals. This
file says over the rationals what these comparisons decide, and that the search succeeds: the grid that
gives seventeen digits is finer than the numbers lie apart, so it has a decimal that reads back. To read
back means that no other number is nearer to the decimal.

## Key results

- `Binary64.readsBack_iff`: the decimals that read back lie in an interval around the number
- `Binary64.isNearestTo_of_readsBack`: no other number is nearer to a decimal that reads back
- `Binary64.leadingPower_le`: the exponent of the first digit is not too large
- `Binary64.readsBack_shortest`, `Binary64.not_readsBack_of_exponent_lt`: the search for the shortest
  decimal succeeds, and finds the shortest
-/

namespace FilterQuery

/-- The exact value of a decimal. -/
def Decimal.value (d : Decimal) : ℚ := d.digits * 10 ^ d.exponent

namespace Binary64

/-- The exact magnitude of a number. -/
def magnitude (x : Binary64) : ℚ := x.mantissa * 2 ^ x.exponent

/-- No number of the format is nearer to the magnitude `q` than this one, and if another one is equally
    near, then this one has the even mantissa. -/
def IsNearestTo (x : Binary64) (q : ℚ) : Prop :=
  ∀ y : Binary64, |q - x.magnitude| ≤ |q - y.magnitude| ∧
    (|q - x.magnitude| = |q - y.magnitude| → y.magnitude = x.magnitude ∨ x.mantissa % 2 = 0)

/-! ## Comparisons of naturals -/

/-- A power with an integer exponent as a quotient of powers with natural exponents. -/
private theorem zpow_mul_pow {b : ℚ} (hb : b ≠ 0) (e : ℤ) : b ^ e * b ^ (-e).toNat = b ^ e.toNat := by
  rw [← zpow_natCast, ← zpow_natCast, ← zpow_add₀ hb]
  congr 1
  omega

/-- What both sides of a comparison are multiplied with. -/
private def scale (x : Binary64) (p : ℤ) : ℚ :=
  2 ^ (-(x.exponent - 2)).toNat * 10 ^ (-p).toNat

private theorem scale_pos (x : Binary64) (p : ℤ) : 0 < x.scale p := by
  unfold scale
  positivity

variable {x : Binary64} {a n : ℕ} {p : ℤ}

private theorem powerOfTen_eq (k : ℕ) : powerOfTen k = 10 ^ k := rfl

/-- The first side is a number of quarters of a unit, scaled. -/
private theorem sides_fst : ((x.sides a n p).1 : ℚ) = a * 2 ^ (x.exponent - 2) * x.scale p := by
  have htwo := zpow_mul_pow (b := 2) (by norm_num) (x.exponent - 2)
  simp only [sides, powerOfTen_eq, Nat.shiftLeft_eq, scale]
  push_cast
  rw [← htwo]
  ring

/-- The second side is the decimal, scaled alike. -/
private theorem sides_snd : ((x.sides a n p).2 : ℚ) = n * 10 ^ p * x.scale p := by
  have hten := zpow_mul_pow (b := 10) (by norm_num) p
  simp only [sides, powerOfTen_eq, Nat.shiftLeft_eq, scale]
  push_cast
  rw [← hten]
  ring

/-- The first side is at most the second when quarters of a unit are at most the decimal. -/
private theorem sides_le_iff :
    (x.sides a n p).1 ≤ (x.sides a n p).2 ↔ (a : ℚ) * 2 ^ (x.exponent - 2) ≤ n * 10 ^ p := by
  rw [← mul_le_mul_iff_of_pos_right (x.scale_pos p), ← sides_fst, ← sides_snd, Nat.cast_le]

private theorem sides_ge_iff :
    (x.sides a n p).2 ≤ (x.sides a n p).1 ↔ (n : ℚ) * 10 ^ p ≤ a * 2 ^ (x.exponent - 2) := by
  rw [← mul_le_mul_iff_of_pos_right (x.scale_pos p), ← sides_fst, ← sides_snd, Nat.cast_le]

/-- Half the distance to the next number above. -/
def gapAbove (x : Binary64) : ℚ := 2 ^ x.exponent / 2

/-- Half the distance to the next number below. Below a power of two the numbers lie closer. -/
def gapBelow (x : Binary64) : ℚ :=
  if x.mantissa = 2 ^ 52 ∧ -1074 < x.exponent then 2 ^ x.exponent / 4 else 2 ^ x.exponent / 2

private theorem unit_pos (x : Binary64) : (0 : ℚ) < 2 ^ x.exponent := by positivity

/-- There is a distance to the number above. -/
private theorem gapAbove_pos (x : Binary64) : 0 < x.gapAbove := half_pos x.unit_pos

/-- A quarter of the unit is the power of two with an exponent less by two. -/
private theorem quarter_eq (x : Binary64) : (2 : ℚ) ^ (x.exponent - 2) = 2 ^ x.exponent / 4 := by
  rw [zpow_sub₀ (by norm_num)]
  norm_num

/-- There is a distance to the number below. -/
private theorem gapBelow_pos (x : Binary64) : 0 < x.gapBelow := by
  have hunit := x.unit_pos
  unfold gapBelow
  split <;> linarith

/-- The distance below is at most the one above. -/
private theorem gapBelow_le (x : Binary64) : x.gapBelow ≤ 2 ^ x.exponent / 2 := by
  have hunit := x.unit_pos
  unfold gapBelow
  split <;> linarith

/-- The lower end of the interval, in quarters of a unit. -/
private theorem quarters_fst (hpos : 0 < x.mantissa) :
    (x.quarters.1 : ℚ) * 2 ^ (x.exponent - 2) = x.magnitude - x.gapBelow := by
  have hone : 1 <<< 52 = 2 ^ 52 := rfl
  have hmantissa : (1 : ℚ) ≤ x.mantissa := by exact_mod_cast hpos
  rw [quarter_eq, quarters, gapBelow, magnitude, hone]
  simp only
  -- The gap is one quarter of a unit below a power of two, and two quarters elsewhere.
  split
  · rw [Nat.cast_sub (by omega)]
    push_cast
    ring
  · rw [Nat.cast_sub (by omega)]
    push_cast
    ring

/-- The upper end of the interval, in quarters of a unit. -/
private theorem quarters_snd :
    (x.quarters.2.2 : ℚ) * 2 ^ (x.exponent - 2) = x.magnitude + x.gapAbove := by
  rw [quarter_eq, quarters, gapAbove, magnitude]
  push_cast
  ring

/-- The decimals that read back lie in an interval around the number. Its ends belong to it when the
    mantissa is even. -/
theorem readsBack_iff (hpos : 0 < x.mantissa) :
    x.readsBack n p = true ↔
      x.magnitude - x.gapBelow ≤ n * 10 ^ p ∧ n * 10 ^ p ≤ x.magnitude + x.gapAbove ∧
      ((n * 10 ^ p = x.magnitude - x.gapBelow ∨ n * 10 ^ p = x.magnitude + x.gapAbove) →
        x.mantissa % 2 = 0) := by
  unfold readsBack
  -- An even mantissa takes in the ends of the interval.
  by_cases heven : x.mantissa % 2 = 0
  · simp only [heven, if_true, Bool.and_eq_true, decide_eq_true_eq, sides_le_iff, sides_ge_iff,
      quarters_fst hpos, quarters_snd, implies_true, and_true]
  · simp only [heven, if_false, Bool.and_eq_true, decide_eq_true_eq, ← not_le, sides_le_iff,
      sides_ge_iff, quarters_fst hpos, quarters_snd, imp_false, not_or]
    -- Without its ends the interval is open.
    constructor
    · intro h
      obtain ⟨hlow, hhigh⟩ := h
      rw [not_le] at hlow hhigh
      exact ⟨hlow.le, hhigh.le, hlow.ne', hhigh.ne⟩
    · intro h
      obtain ⟨hlow, hhigh, hne, hne'⟩ := h
      rw [not_le, not_le]
      exact ⟨lt_of_le_of_ne hlow (Ne.symm hne), lt_of_le_of_ne hhigh hne'⟩

/-! ## Neighbours -/

variable {y : Binary64}

private theorem mantissa_lt_two_pow (x : Binary64) : x.mantissa < 2 ^ 53 := x.mantissa_lt

/-- A number with at least the exponent of another one is a multiple of its unit. -/
private theorem exists_magnitude_eq (h : x.exponent ≤ y.exponent) :
    ∃ k : ℕ, y.magnitude = k * 2 ^ x.exponent := by
  refine ⟨y.mantissa * 2 ^ (y.exponent - x.exponent).toNat, ?_⟩
  have hexponent : y.exponent = (y.exponent - x.exponent).toNat + x.exponent := by omega
  rw [magnitude, hexponent, zpow_add₀ (by norm_num), zpow_natCast]
  push_cast
  -- Shifting the mantissa makes up for the difference of the exponents.
  have hself : ((y.exponent - x.exponent).toNat + x.exponent - x.exponent).toNat =
      (y.exponent - x.exponent).toNat := by omega
  rw [hself]
  ring

/-- A number with a lesser exponent than another one stays below all mantissas of 53 bits. -/
private theorem magnitude_le_of_exponent_lt (h : y.exponent < x.exponent) :
    y.magnitude ≤ 2 ^ 52 * 2 ^ x.exponent - 2 ^ x.exponent / 2 := by
  -- The largest mantissa, with half the unit at most.
  have hmantissa : (y.mantissa : ℚ) ≤ 2 ^ 53 - 1 := by
    have hlt : y.mantissa + 1 ≤ 2 ^ 53 := y.mantissa_lt_two_pow
    have hcast : ((y.mantissa + 1 : ℕ) : ℚ) ≤ (2 ^ 53 : ℕ) := Nat.cast_le.2 hlt
    push_cast at hcast
    linarith
  have hunit : (2 : ℚ) ^ y.exponent ≤ 2 ^ x.exponent / 2 := by
    have hle : (2 : ℚ) ^ y.exponent ≤ 2 ^ (x.exponent - 1) :=
      zpow_le_zpow_right₀ (by norm_num) (by omega)
    rwa [zpow_sub_one₀ (by norm_num), ← div_eq_mul_inv] at hle
  calc y.magnitude = y.mantissa * 2 ^ y.exponent := rfl
    _ ≤ (2 ^ 53 - 1) * (2 ^ x.exponent / 2) := by
      apply mul_le_mul hmantissa hunit y.unit_pos.le
      norm_num
    _ = 2 ^ 52 * 2 ^ x.exponent - 2 ^ x.exponent / 2 := by ring

/-- With a lesser exponent in the format the mantissa has 53 bits. -/
private theorem normal_of_exponent_lt (h : y.exponent < x.exponent) : (2 : ℚ) ^ 52 ≤ x.mantissa := by
  have hleast := y.least_le
  have hone : 1 <<< 52 = 2 ^ 52 := rfl
  cases x.normal with
  | inl hnormal =>
    rw [hone] at hnormal
    exact_mod_cast hnormal
  | inr hsubnormal => omega

/-- The numbers below keep their distance. -/
theorem magnitude_le_sub_of_lt (h : y.magnitude < x.magnitude) :
    y.magnitude ≤ x.magnitude - 2 * x.gapBelow := by
  have hunit := x.unit_pos
  -- On the same grid or a coarser one the numbers are multiples of the unit; on a finer grid they
  -- lie below the power of two.
  by_cases hexponent : x.exponent ≤ y.exponent
  · obtain ⟨k, hk⟩ := exists_magnitude_eq hexponent
    have hgap := x.gapBelow_le
    rw [hk, magnitude] at h ⊢
    have hlt : k < x.mantissa := by
      rw [mul_lt_mul_iff_of_pos_right hunit] at h
      exact_mod_cast h
    have hstep : ((k + 1 : ℕ) : ℚ) * 2 ^ x.exponent ≤ x.mantissa * 2 ^ x.exponent :=
      mul_le_mul_of_nonneg_right (Nat.cast_le.2 hlt) hunit.le
    push_cast at hstep
    linarith
  · rw [not_le] at hexponent
    have hlow := magnitude_le_of_exponent_lt hexponent
    have hnormal := normal_of_exponent_lt hexponent
    have hleast : -1074 < x.exponent := lt_of_le_of_lt y.least_le hexponent
    have hvalue : x.magnitude = x.mantissa * 2 ^ x.exponent := rfl
    by_cases hpower : x.mantissa = 2 ^ 52
    · rw [gapBelow, if_pos ⟨hpower, hleast⟩, hvalue, hpower]
      push_cast
      linarith
    · -- Above the power of two there is a whole unit more.
      have hmore : ((2 ^ 52 + 1 : ℕ) : ℚ) ≤ x.mantissa := by
        rw [Nat.cast_le]
        have hle : 2 ^ 52 ≤ x.mantissa := by exact_mod_cast hnormal
        omega
      have hscaled := mul_le_mul_of_nonneg_right hmore hunit.le
      rw [gapBelow, if_neg fun h => hpower h.1, hvalue]
      push_cast at hscaled
      linarith

/-- The numbers above keep the gap that lies on that side. -/
theorem add_le_magnitude_of_lt (h : x.magnitude < y.magnitude) :
    x.magnitude + 2 * x.gapAbove ≤ y.magnitude := by
  have hunit := x.unit_pos
  by_cases hexponent : x.exponent ≤ y.exponent
  · obtain ⟨k, hk⟩ := exists_magnitude_eq hexponent
    rw [hk, magnitude] at h ⊢
    have hlt : x.mantissa < k := by
      rw [mul_lt_mul_iff_of_pos_right hunit] at h
      exact_mod_cast h
    have hstep : ((x.mantissa + 1 : ℕ) : ℚ) * 2 ^ x.exponent ≤ k * 2 ^ x.exponent :=
      mul_le_mul_of_nonneg_right (Nat.cast_le.2 hlt) hunit.le
    rw [gapAbove]
    push_cast at hstep
    linarith
  · -- A lesser exponent does not reach so far.
    rw [not_le] at hexponent
    have hlow := magnitude_le_of_exponent_lt hexponent
    have hnormal := normal_of_exponent_lt hexponent
    have hscaled := mul_le_mul_of_nonneg_right hnormal hunit.le
    rw [magnitude] at h
    linarith

/-- From the middle of two rationals on, the higher one is the nearer, and both are equally near in the
    middle alone. -/
private theorem abs_sub_le_of_middle_le {q low high : ℚ} (hlt : low < high)
    (h : low + high ≤ 2 * q) :
    |q - high| ≤ |q - low| ∧ (|q - high| = |q - low| → 2 * q = low + high) := by
  have hdistance : |q - low| = q - low := abs_of_nonneg (by linarith)
  rw [hdistance]
  refine ⟨abs_le.2 ⟨by linarith, by linarith⟩, fun hsame => ?_⟩
  cases abs_cases (q - high) with
  | inl hright => linarith
  | inr hleft => linarith

/-- Up to the middle of two rationals the lower one is the nearer. -/
private theorem abs_sub_le_of_le_middle {q low high : ℚ} (hlt : low < high)
    (h : 2 * q ≤ low + high) :
    |q - low| ≤ |q - high| ∧ (|q - low| = |q - high| → 2 * q = low + high) := by
  -- Negation turns the rationals around and keeps their distances.
  obtain ⟨hle, hmiddle⟩ := abs_sub_le_of_middle_le (neg_lt_neg hlt) (q := -q) (by linarith)
  rw [neg_sub_neg, neg_sub_neg, abs_sub_comm low, abs_sub_comm high] at hle hmiddle
  exact ⟨hle, fun hsame => by linarith [hmiddle hsame]⟩

/-- No number is nearer to a decimal that reads back. -/
theorem isNearestTo_of_readsBack (hpos : 0 < x.mantissa)
    (h : x.readsBack n p = true) : x.IsNearestTo (n * 10 ^ p) := by
  obtain ⟨hlow, hhigh, hends⟩ := (readsBack_iff hpos).1 h
  generalize (n * 10 ^ p : ℚ) = q at hlow hhigh hends
  have hbelow := x.gapBelow_pos
  have habove := x.gapAbove_pos
  intro y
  -- On either side the number is as far as two gaps, and the decimal within one: it does not lie beyond
  -- the middle, and when it lies there it is an end of the interval.
  obtain hlt | heq | hgt := lt_trichotomy y.magnitude x.magnitude
  · have hgap := magnitude_le_sub_of_lt hlt
    obtain ⟨hnear, hmiddle⟩ := abs_sub_le_of_middle_le hlt (q := q) (by linarith)
    exact ⟨hnear, fun hsame => .inr (hends (.inl (by linarith [hmiddle hsame])))⟩
  · rw [heq]
    exact ⟨le_refl _, fun _ => .inl rfl⟩
  · have hgap := add_le_magnitude_of_lt hgt
    obtain ⟨hnear, hmiddle⟩ := abs_sub_le_of_le_middle hgt (q := q) (by linarith)
    exact ⟨hnear, fun hsame => .inr (hends (.inr (by linarith [hmiddle hsame])))⟩

/-! ## The exponent of the first digit -/

/-- The neighbours of a number on a grid. -/
private theorem floorOn_bounds (x : Binary64) (p : ℤ) :
    (x.floorOn p : ℚ) * 10 ^ p ≤ x.magnitude ∧ x.magnitude < (x.floorOn p + 1) * 10 ^ p := by
  have hscale := x.scale_pos p
  have hvalue : ((x.sides (4 * x.mantissa) 1 p).1 : ℚ) = x.magnitude * x.scale p := by
    rw [sides_fst, quarter_eq, magnitude]
    push_cast
    ring
  have hstep : ((x.sides (4 * x.mantissa) 1 p).2 : ℚ) = 10 ^ p * x.scale p := by
    rw [sides_snd, Nat.cast_one, one_mul]
  have hpositive : 0 < (x.sides (4 * x.mantissa) 1 p).2 := by
    have hcast : (0 : ℚ) < ((x.sides (4 * x.mantissa) 1 p).2 : ℚ) := by
      rw [hstep]
      positivity
    exact_mod_cast hcast
  have hfloor : x.floorOn p =
      (x.sides (4 * x.mantissa) 1 p).1 / (x.sides (4 * x.mantissa) 1 p).2 := rfl
  generalize x.sides (4 * x.mantissa) 1 p = s at hvalue hstep hpositive hfloor
  -- The floor is a quotient of naturals, so both bounds are those of division with rest.
  have hlow : ((x.floorOn p * s.2 : ℕ) : ℚ) ≤ s.1 := by
    rw [Nat.cast_le, hfloor]
    exact Nat.div_mul_le_self ..
  have hhigh : (s.1 : ℚ) < ((x.floorOn p + 1) * s.2 : ℕ) := by
    rw [Nat.cast_lt, hfloor]
    exact (Nat.div_lt_iff_lt_mul hpositive).1 (Nat.lt_succ_self _)
  push_cast at hlow hhigh
  rw [hvalue, hstep, ← mul_assoc] at hlow hhigh
  exact ⟨le_of_mul_le_mul_right hlow hscale, lt_of_mul_lt_mul_right hhigh hscale.le⟩

/-- A grid has a multiple other than zero below the number when its first multiple is. -/
private theorem one_le_floorOn_iff : 1 ≤ x.floorOn p ↔ (10 : ℚ) ^ p ≤ x.magnitude := by
  obtain ⟨hlow, hhigh⟩ := x.floorOn_bounds p
  have hten : (0 : ℚ) < 10 ^ p := by positivity
  constructor
  · intro h
    have hone : (1 : ℚ) ≤ x.floorOn p := by exact_mod_cast h
    linarith [mul_le_mul_of_nonneg_right hone hten.le]
  · intro h
    -- A floor of zero would put the number below the first multiple.
    by_contra hzero
    have hfloor : x.floorOn p = 0 := by omega
    rw [hfloor] at hhigh
    push_cast at hhigh
    linarith

/-- The binary exponent that the exponent of the first digit is estimated from. -/
private def binaryExponent (x : Binary64) : ℤ := (Nat.log2 x.num : ℤ) - Nat.log2 x.den

private theorem log2_den (x : Binary64) : Nat.log2 x.den = (-x.exponent).toNat := by
  rw [den, Nat.shiftLeft_eq, one_mul]
  exact Nat.log2_two_pow

private theorem num_ne_zero (hpos : 0 < x.mantissa) : x.num ≠ 0 := by
  rw [num, Nat.shiftLeft_eq]
  positivity

/-- The binary exponent is that of a power of two below the number. -/
private theorem two_zpow_binaryExponent_le (hpos : 0 < x.mantissa) :
    (2 : ℚ) ^ x.binaryExponent ≤ x.magnitude := by
  have hnum : (x.num : ℚ) = x.magnitude * 2 ^ Nat.log2 x.den := by
    rw [log2_den, magnitude, mul_assoc, zpow_mul_pow (by norm_num), num, Nat.shiftLeft_eq]
    push_cast
    ring
  have hlog : ((2 ^ Nat.log2 x.num : ℕ) : ℚ) ≤ x.num :=
    Nat.cast_le.2 (Nat.log2_self_le (num_ne_zero hpos))
  have hden : (0 : ℚ) < 2 ^ Nat.log2 x.den := by positivity
  -- Times the denominator, both sides are naturals up to the rounding of a logarithm.
  apply le_of_mul_le_mul_right _ hden
  calc (2 : ℚ) ^ x.binaryExponent * 2 ^ Nat.log2 x.den = 2 ^ Nat.log2 x.num := by
        rw [binaryExponent, ← zpow_natCast, ← zpow_natCast, ← zpow_add₀ (by norm_num), sub_add_cancel]
    _ ≤ x.magnitude * 2 ^ Nat.log2 x.den := by
        rw [← hnum]
        exact_mod_cast hlog

/-- The binary exponents of positive numbers are those that the estimates are checked for. -/
private theorem binaryExponent_bounds (hpos : 0 < x.mantissa) :
    -1074 ≤ x.binaryExponent ∧ x.binaryExponent < 1024 := by
  have hleast := x.least_le
  have hgreatest := x.le_greatest
  -- The numerator is the mantissa, shifted by the exponent if that is positive.
  have hlog : Nat.log2 x.num < 53 + x.exponent.toNat := by
    rw [Nat.log2_lt (num_ne_zero hpos), num, Nat.shiftLeft_eq, Nat.pow_add]
    exact Nat.mul_lt_mul_of_pos_right x.mantissa_lt_two_pow (by positivity)
  rw [binaryExponent, log2_den]
  omega

/-- The estimate of the first digit's exponent, less one, is never too large. There is one comparison of
    powers for each binary exponent, and they are made one by one. -/
private theorem estimates_le :
    (List.range 2098).all (fun (i : ℕ) =>
      let e : ℤ := i - 1074
      let k := e * 30103 / 100000 - 1
      decide (10 ^ k.toNat * 2 ^ (-e).toNat ≤ 2 ^ e.toNat * 10 ^ (-k).toNat)) = true := by
  decide +kernel

/-- The estimate of the exponent of the first digit, less one, is never too large. -/
private theorem ten_zpow_estimate_le {e : ℤ} (hlow : -1074 ≤ e) (hhigh : e < 1024) :
    (10 : ℚ) ^ (e * 30103 / 100000 - 1) ≤ 2 ^ e := by
  have hmem : (e + 1074).toNat ∈ List.range 2098 := by
    rw [List.mem_range]
    omega
  have hindex : (((e + 1074).toNat : ℕ) : ℤ) - 1074 = e := by omega
  have hestimate := List.all_eq_true.1 estimates_le _ hmem
  simp only [hindex, decide_eq_true_eq] at hestimate
  generalize e * 30103 / 100000 - 1 = k at hestimate
  -- The checked inequality of naturals, over the rationals.
  have hcast : (10 : ℚ) ^ k.toNat * 2 ^ (-e).toNat ≤ 2 ^ e.toNat * 10 ^ (-k).toNat := by
    exact_mod_cast hestimate
  rw [← zpow_mul_pow (by norm_num) k, ← zpow_mul_pow (by norm_num) e] at hcast
  have hfactor : (0 : ℚ) < 10 ^ (-k).toNat * 2 ^ (-e).toNat := by positivity
  apply le_of_mul_le_mul_right _ hfactor
  linarith

/-- The power of ten at the first digit is at most the number. -/
theorem leadingPower_le (hpos : 0 < x.mantissa) :
    (10 : ℚ) ^ x.leadingExponent ≤ x.magnitude := by
  unfold leadingExponent
  simp only
  -- The estimate is tried with one more and as it is, and taken one lower without a check.
  split
  case isTrue h => exact one_le_floorOn_iff.1 h
  case isFalse h =>
    split
    case isTrue h => exact one_le_floorOn_iff.1 h
    case isFalse h =>
      obtain ⟨hlow, hhigh⟩ := binaryExponent_bounds hpos
      exact (ten_zpow_estimate_le hlow hhigh).trans (two_zpow_binaryExponent_le hpos)

/-! ## The search -/

/-- One of the neighbours on a fine grid reads back. -/
private theorem readsBack_floorOn_or (hpos : 0 < x.mantissa)
    (hfine : (10 : ℚ) ^ p < x.gapBelow + x.gapAbove) :
    x.readsBack (x.floorOn p) p = true ∨ x.readsBack (x.floorOn p + 1) p = true := by
  obtain ⟨hlow, hhigh⟩ := x.floorOn_bounds p
  have hbelow := x.gapBelow_pos
  have habove := x.gapAbove_pos
  rw [readsBack_iff hpos, readsBack_iff hpos]
  push_cast
  -- If the lower neighbour is out of the interval, the step from it leads into the upper part.
  by_cases hinside : x.magnitude - x.gapBelow < x.floorOn p * 10 ^ p
  · refine .inl ⟨hinside.le, by linarith, fun hend => ?_⟩
    obtain hend | hend := hend <;> linarith
  · rw [not_lt] at hinside
    refine .inr ⟨by linarith, by linarith, fun hend => ?_⟩
    obtain hend | hend := hend <;> linarith

/-- The grid of the seventeenth digit is finer than the numbers lie apart. -/
private theorem seventeenth_lt (hpos : 0 < x.mantissa) :
    (10 : ℚ) ^ (x.leadingExponent - 16) < x.gapBelow + x.gapAbove := by
  have hlead := leadingPower_le hpos
  have hunit := x.unit_pos
  have hmantissa : (x.mantissa : ℚ) < 2 ^ 53 := by exact_mod_cast x.mantissa_lt_two_pow
  have hscaled := mul_lt_mul_of_pos_right hmantissa hunit
  have hgrid : (10 : ℚ) ^ (x.leadingExponent - 16) = 10 ^ x.leadingExponent / 10 ^ 16 := by
    rw [zpow_sub₀ (by norm_num)]
    rfl
  rw [hgrid, div_lt_iff₀ (by norm_num), gapAbove]
  unfold gapBelow
  rw [magnitude] at hlead
  -- A number with 53 bits is less than ten to the sixteenth units, and a power of two still leaves
  -- room with the smaller gap.
  split
  case isTrue h =>
    rw [h.1] at hlead
    push_cast at hlead
    linarith
  case isFalse h => linarith

/-- A grid with a neighbour that reads back ends the search. -/
private theorem onGrid?_ne_none (h : x.readsBack (x.floorOn p) p = true ∨
    x.readsBack (x.floorOn p + 1) p = true) : x.onGrid? p ≠ none := by
  simp only [onGrid?]
  cases h with
  | inl hlower =>
    rw [hlower]
    cases x.readsBack (x.floorOn p + 1) p <;> exact Option.some_ne_none _
  | inr hupper =>
    rw [hupper]
    cases x.readsBack (x.floorOn p) p <;> exact Option.some_ne_none _

/-- A search over grids succeeds when one of the grids has a decimal. -/
private theorem firstOn_ne_none {ps : List ℤ} (hmem : p ∈ ps) (h : x.onGrid? p ≠ none) :
    x.firstOn ps ≠ none := by
  -- The grids in front either end the search themselves or are passed by.
  induction ps with
  | nil => exact absurd hmem List.not_mem_nil
  | cons q ps ih =>
    rw [firstOn]
    cases hgrid : x.onGrid? q with
    | some n => exact Option.some_ne_none _
    | none =>
      cases List.mem_cons.1 hmem with
      | inl hself => exact absurd (hself ▸ hgrid) h
      | inr hrest => exact ih hrest

/-- The search for the shortest decimal succeeds. -/
private theorem exists_firstOn (hpos : 0 < x.mantissa) : ∃ d, x.firstOn x.grids = some d := by
  -- Grids for seventeen digits are searched, and the last of them is fine enough.
  have hmem : x.leadingExponent - 16 ∈ x.grids := List.mem_map.2 ⟨16, by decide, rfl⟩
  exact Option.ne_none_iff_exists'.1 (firstOn_ne_none hmem
    (onGrid?_ne_none (readsBack_floorOn_or hpos (seventeenth_lt hpos))))

/-- The shortest decimal reads back. -/
theorem readsBack_shortest (hpos : 0 < x.mantissa) :
    x.readsBack x.shortest.digits x.shortest.exponent = true := by
  obtain ⟨d, hd⟩ := exists_firstOn hpos
  rw [shortest, hd, Option.getD_some]
  exact readsBack_of_firstOn hd

/-- A grid whose neighbours of the number do not read back has no decimal that does. -/
private theorem not_readsBack_of_onGrid?_eq_none (hpos : 0 < x.mantissa) (h : x.onGrid? p = none) :
    ¬ x.readsBack n p = true := by
  intro hread
  have hneighbours : ¬ (x.readsBack (x.floorOn p) p = true ∨ x.readsBack (x.floorOn p + 1) p = true) :=
    fun hsome => onGrid?_ne_none hsome h
  apply hneighbours
  rw [readsBack_iff hpos] at hread
  obtain ⟨hlow, hhigh, hends⟩ := hread
  obtain ⟨hfloor, hnext⟩ := x.floorOn_bounds p
  have hten : (0 : ℚ) < 10 ^ p := by positivity
  have hbelow := x.gapBelow_pos
  have habove := x.gapAbove_pos
  rw [readsBack_iff hpos, readsBack_iff hpos]
  push_cast
  -- The neighbour on the side of the decimal is between it and the number.
  by_cases hside : n ≤ x.floorOn p
  · have hle : (n : ℚ) * 10 ^ p ≤ x.floorOn p * 10 ^ p :=
      mul_le_mul_of_nonneg_right (Nat.cast_le.2 hside) hten.le
    refine .inl ⟨by linarith, by linarith, fun hend => ?_⟩
    obtain hend | hend := hend
    · exact hends (.inl (by linarith))
    · linarith
  · have hle : ((x.floorOn p + 1 : ℕ) : ℚ) * 10 ^ p ≤ n * 10 ^ p :=
      mul_le_mul_of_nonneg_right (Nat.cast_le.2 (by omega)) hten.le
    push_cast at hle
    refine .inr ⟨by linarith, by linarith, fun hend => ?_⟩
    obtain hend | hend := hend
    · linarith
    · exact hends (.inr (by linarith))

/-- The grids before the first that has a decimal have none. -/
private theorem exists_append_of_firstOn {ps : List ℤ} {d : Decimal} (h : x.firstOn ps = some d) :
    ∃ before after, ps = before ++ d.exponent :: after ∧ ∀ q ∈ before, x.onGrid? q = none := by
  -- The search stops at the first grid that has a decimal.
  induction ps with
  | nil => exact absurd h.symm (Option.some_ne_none _)
  | cons q ps ih =>
    rw [firstOn] at h
    cases hgrid : x.onGrid? q with
    | some n =>
      rw [hgrid] at h
      obtain rfl := Option.some.inj h
      exact ⟨[], ps, rfl, fun q hq => absurd hq List.not_mem_nil⟩
    | none =>
      rw [hgrid] at h
      obtain ⟨before, after, rfl, hbefore⟩ := ih h
      refine ⟨q :: before, after, rfl, ?_⟩
      rw [List.forall_mem_cons]
      exact ⟨hgrid, hbefore⟩

/-- No decimal with fewer digits reads back. -/
theorem not_readsBack_of_exponent_lt (hpos : 0 < x.mantissa) (hcoarse : x.shortest.exponent < p)
    (hlead : p ≤ x.leadingExponent) : ¬ x.readsBack n p = true := by
  obtain ⟨d, hd⟩ := exists_firstOn hpos
  obtain ⟨before, after, hgrids, hbefore⟩ := exists_append_of_firstOn hd
  rw [shortest, hd, Option.getD_some] at hcoarse
  -- The grids are searched from the coarsest on, so this one came before.
  have hsorted : x.grids.Pairwise (· > ·) := by
    unfold grids
    rw [List.pairwise_map]
    exact List.pairwise_lt_range.imp fun h => by omega
  have hlast : d.exponent ∈ x.grids := by
    rw [hgrids]
    exact List.mem_append_right _ (List.mem_cons_self ..)
  have hmem : p ∈ x.grids := by
    obtain ⟨i, hi, hexponent⟩ := List.mem_map.1 hlast
    rw [List.mem_range] at hi
    refine List.mem_map.2 ⟨(x.leadingExponent - p).toNat, ?_, by omega⟩
    rw [List.mem_range]
    omega
  rw [hgrids, List.pairwise_append, List.pairwise_cons] at hsorted
  rw [hgrids, List.mem_append, List.mem_cons] at hmem
  obtain hp | hp | hp := hmem
  · exact not_readsBack_of_onGrid?_eq_none hpos (hbefore p hp)
  · omega
  · have hafter := hsorted.2.1.1 p hp
    omega

/-- A decimal that reads back is not zero. -/
theorem pos_of_readsBack (hpos : 0 < x.mantissa) (h : x.readsBack n p = true) : 0 < n := by
  obtain ⟨hlow, -, -⟩ := (readsBack_iff hpos).1 h
  have hunit := x.unit_pos
  have hgap := x.gapBelow_le
  have hmantissa : (1 : ℚ) ≤ x.mantissa := by exact_mod_cast hpos
  have hscaled := mul_le_mul_of_nonneg_right hmantissa hunit.le
  -- Zero lies a unit below the number at least, and the interval reaches down by half a unit.
  apply Nat.pos_of_ne_zero
  rintro rfl
  rw [magnitude, Nat.cast_zero, zero_mul] at hlow
  linarith

/-- Nothing is nearer to a number than the number itself. -/
theorem isNearestTo_magnitude (x : Binary64) : x.IsNearestTo x.magnitude := by
  intro y
  rw [sub_self, abs_zero]
  refine ⟨abs_nonneg _, fun hsame => .inl ?_⟩
  linarith [abs_eq_zero.1 hsame.symm]

/-- No number is nearer to the shortest decimal of a number than the number itself. -/
theorem isNearestTo_shortest (hpos : 0 < x.mantissa) :
    x.IsNearestTo x.shortest.value :=
  isNearestTo_of_readsBack hpos (readsBack_shortest hpos)

end Binary64

end FilterQuery
