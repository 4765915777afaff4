import FilterQuery.Proofs.NumberLiterals
import FilterQuery.Proofs.ShortestDecimal
import Mathlib.Data.List.TakeWhile

/-!
# Texts of numbers

A number of a document stands for its text where texts are asked for. The text of an integer has its
decimal digits. That of a double is a number literal again, written with a plain point or with an
exponent, and the double is the number nearest to what the literal denotes.

## Key results

- `Number.text_integer`: the text of an integer
- `Decimal.exists_literal`: what a decimal in a layout denotes
- `Number.exists_literal_of_double`: the text of a double
-/

namespace FilterQuery

namespace Number

/-- The text of an integer: its digits in decimal, behind a minus sign if it is negative. -/
theorem text_integer (n : ℤ) : (integer n).text = toString n := by
  cases n with
  | ofNat m =>
    have hsign : ¬ (Int.ofNat m < 0) := Int.not_lt.2 (Int.natCast_nonneg m)
    rw [text, chars, if_neg hsign, List.nil_append]
    rfl
  | negSucc m =>
    have hsign : Int.negSucc m < 0 := Int.negSucc_lt_zero m
    rw [text, chars, if_pos hsign, String.ofList_append]
    rfl

/-- The digit zero may stand before the point. -/
private theorem Literal.isWhole_zero : Literal.IsWhole ['0'] := ⟨by simp, by simp, fun _ => rfl⟩

/-- The exact magnitude that a literal denotes. -/
def Literal.magnitude (l : Literal) : ℚ :=
  naturalOf (l.whole ++ l.fraction) * 10 ^ (l.exponent.getD 0 - l.fraction.length)

end Number

/-! ## Decimals -/

namespace Decimal

/-- Digits other than those of zero do not begin with one. -/
private theorem head?_naturalChars_ne {n : ℕ} (h : 0 < n) : (naturalChars n).head? ≠ some '0' := by
  -- The digits of a number begin with those of its tenth part, down to a single digit.
  induction n using Nat.strongRecOn with
  | ind n ih =>
    unfold naturalChars
    rw [Nat.toDigits_eq_if (by decide)]
    split
    case isTrue hsmall =>
      rw [List.head?_cons, ne_eq, Option.some.injEq]
      -- A single digit other than zero has another code than the character of zero.
      intro hzero
      have hdigit := congrArg Char.toNat hzero
      rw [Nat.toNat_digitChar_of_lt_ten hsmall] at hdigit
      have hcode : '0'.toNat = 48 := rfl
      omega
    case isFalse hlarge =>
      have htenth := ih (n / 10) (by omega) (by omega)
      rwa [List.head?_append_of_ne_nil _ Nat.toDigits_ne_nil]

private theorem isDigit_of_mem_replicate {k : ℕ} : ∀ c ∈ List.replicate k '0', c.isDigit := by
  intro c hc
  rw [List.eq_of_mem_replicate hc]
  rfl

/-- The zeros at the end are all that is taken off. -/
private theorem exists_trimZeros_append (ds : List Char) :
    ∃ k, ds = trimZeros ds ++ List.replicate k '0' := by
  refine ⟨(ds.reverse.takeWhile (· == '0')).length, ?_⟩
  -- Read from the end, the zeros are those in front of the first other digit.
  have hzeros : ds.reverse.takeWhile (· == '0') =
      List.replicate (ds.reverse.takeWhile (· == '0')).length '0' := by
    rw [List.eq_replicate_iff]
    exact ⟨rfl, fun c hc => by simpa using List.mem_takeWhile_imp hc⟩
  rw [← List.reverse_inj, List.reverse_append, List.reverse_replicate, ← hzeros, trimZeros,
    List.reverse_reverse, List.takeWhile_append_dropWhile]

open Number

variable {ds : List Char}

/-- The digits of a decimal: there is one, and the first is no zero. -/
private structure IsDigits (ds : List Char) : Prop where
  ne_nil : ds ≠ []
  isDigit : ∀ c ∈ ds, c.isDigit
  head_ne : ds.head? ≠ some '0'

namespace IsDigits

/-- Zeros may stand behind the digits. -/
private theorem isWhole_append (hds : IsDigits ds) (k : ℕ) :
    Literal.IsWhole (ds ++ List.replicate k '0') where
  ne_nil := List.append_ne_nil_of_left_ne_nil hds.ne_nil _
  isDigit := by
    rw [List.forall_mem_append]
    exact ⟨hds.isDigit, isDigit_of_mem_replicate⟩
  eq_zero_of_head h := by
    rw [List.head?_append_of_ne_nil _ hds.ne_nil] at h
    exact absurd h hds.head_ne

/-- The first digits may stand alone. -/
private theorem isWhole_take (hds : IsDigits ds) {k : ℕ} (hk : 0 < k) :
    Literal.IsWhole (ds.take k) where
  ne_nil := by
    have hne := hds.ne_nil
    simp only [ne_eq, List.take_eq_nil_iff, hne, or_false]
    omega
  isDigit c hc := hds.isDigit c (List.mem_of_mem_take hc)
  eq_zero_of_head h := by
    rw [List.head?_take, if_neg (by omega)] at h
    exact absurd h hds.head_ne

end IsDigits

/-- A plain point stands behind the digit whose exponent is zero. -/
private theorem exists_literal_pointChars (negative : Bool) (hds : IsDigits ds) (e : ℤ) :
    ∃ l, Literal.ofChars? (Literal.signed negative (pointChars ds e)) = some l ∧
      l.negative = negative ∧ l.magnitude = naturalOf ds * 10 ^ (e + 1 - ds.length) := by
  simp only [pointChars]
  split
  case isTrue hnegative =>
    -- All digits stand behind the point, and there are zeros between.
    have hfraction : ∀ c ∈ List.replicate (-e - 1).toNat '0' ++ ds, c.isDigit := by
      rw [List.forall_mem_append]
      exact ⟨isDigit_of_mem_replicate, hds.isDigit⟩
    have hnatural : naturalOf (['0'] ++ (List.replicate (-e - 1).toNat '0' ++ ds)) = naturalOf ds := by
      rw [← List.append_assoc, ← List.replicate_one, ← List.replicate_add, naturalOf_append,
        naturalOf_replicate_zero, Nat.zero_mul, Nat.zero_add]
    refine ⟨⟨negative, ['0'], List.replicate (-e - 1).toNat '0' ++ ds, none, true⟩,
      Literal.ofChars?_point negative Literal.isWhole_zero
        (List.append_ne_nil_of_right_ne_nil _ hds.ne_nil) hfraction, rfl, ?_⟩
    rw [Literal.magnitude, hnatural, Option.getD_none, List.length_append, List.length_replicate]
    congr 2
    omega
  case isFalse hnatural =>
    split
    case isTrue hshort =>
      -- All digits stand before the point, and there are zeros behind them.
      generalize hk : e.toNat + 1 - ds.length = k
      have hnatural : naturalOf (ds ++ List.replicate k '0' ++ ['0']) = naturalOf ds * 10 ^ (k + 1) := by
        rw [← List.replicate_one, List.append_assoc, ← List.replicate_add, naturalOf_append,
          naturalOf_replicate_zero, List.length_replicate, Nat.add_zero]
      refine ⟨⟨negative, ds ++ List.replicate k '0', ['0'], none, true⟩,
        Literal.ofChars?_point negative (hds.isWhole_append k) (by simp) (by simp), rfl, ?_⟩
      rw [Literal.magnitude, hnatural, Option.getD_none, List.length_singleton]
      push_cast
      rw [mul_assoc, ← zpow_natCast, ← zpow_add₀ (by norm_num)]
      congr 2
      omega
    case isFalse hlong =>
      -- The point stands between two digits.
      rw [not_le] at hlong
      have hfraction : ∀ c ∈ ds.drop (e.toNat + 1), c.isDigit :=
        fun c hc => hds.isDigit c (List.mem_of_mem_drop hc)
      have hne : ds.drop (e.toNat + 1) ≠ [] := by
        rw [ne_eq, List.drop_eq_nil_iff]
        omega
      refine ⟨⟨negative, ds.take (e.toNat + 1), ds.drop (e.toNat + 1), none, true⟩,
        Literal.ofChars?_point negative (hds.isWhole_take (by omega)) hne hfraction, rfl, ?_⟩
      rw [Literal.magnitude, List.take_append_drop, Option.getD_none, List.length_drop]
      congr 2
      omega

/-- The first digit stands before the point, and the exponent is its own. -/
private theorem exists_literal_scientificChars (negative : Bool) (hds : IsDigits ds) (e : ℤ) :
    ∃ l, Literal.ofChars? (Literal.signed negative (scientificChars ds e)) = some l ∧
      l.negative = negative ∧ l.magnitude = naturalOf ds * 10 ^ (e + 1 - ds.length) := by
  obtain ⟨d, fs, rfl⟩ := List.exists_cons_of_ne_nil hds.ne_nil
  have hwhole : Literal.IsWhole [d] := hds.isWhole_take (k := 1) (by decide)
  have hfraction : ∀ c ∈ fs, c.isDigit := fun c hc => hds.isDigit c (List.mem_cons_of_mem _ hc)
  have hchars : scientificChars (d :: fs) e =
      [d] ++ ((if fs = [] then [] else '.' :: fs) ++
        'e' :: (if e < 0 then '-' else '+') :: naturalChars e.natAbs) := by
    cases fs <;> simp [scientificChars]
  refine ⟨⟨negative, [d], fs, some e, !fs.isEmpty⟩, ?_, rfl, ?_⟩
  · rw [hchars]
    exact Literal.ofChars?_scientific negative hwhole hfraction (exponent?_signed e)
  · show (naturalOf ([d] ++ fs) : ℚ) * 10 ^ (e - fs.length) =
      naturalOf (d :: fs) * 10 ^ (e + 1 - (d :: fs).length)
    rw [List.singleton_append, List.length_cons]
    congr 2
    omega

/-- The digits of a decimal without the zeros at their end, and what they count for. -/
private theorem exists_isDigits {n : ℕ} (hpos : 0 < n) :
    ∃ k, IsDigits (trimZeros (naturalChars n)) ∧ n = naturalOf (trimZeros (naturalChars n)) * 10 ^ k ∧
      (naturalChars n).length = (trimZeros (naturalChars n)).length + k := by
  obtain ⟨k, hk⟩ := exists_trimZeros_append (naturalChars n)
  have hhead := head?_naturalChars_ne hpos
  have hdigits : ∀ c ∈ naturalChars n, c.isDigit := fun _ => isDigit_of_mem_naturalChars
  have hvalue := naturalOf_naturalChars n
  have hsome : naturalChars n ≠ [] := Nat.toDigits_ne_nil
  generalize trimZeros (naturalChars n) = ds at hk
  rw [hk] at hhead hdigits hvalue hsome
  -- A row of zeros only would begin with one.
  have hne : ds ≠ [] := by
    rintro rfl
    cases k with
    | zero => exact hsome rfl
    | succ k => exact hhead rfl
  rw [List.head?_append_of_ne_nil _ hne] at hhead
  rw [List.forall_mem_append] at hdigits
  rw [naturalOf_append, naturalOf_replicate_zero, List.length_replicate, Nat.add_zero] at hvalue
  exact ⟨k, ⟨hne, hdigits.1, hhead⟩, hvalue.symm, by rw [hk, List.length_append, List.length_replicate]⟩

/-- A decimal in a layout is a literal that denotes the decimal. -/
theorem exists_literal (negative : Bool) (layout : Layout) {d : Decimal} (hpos : 0 < d.digits) :
    ∃ l, Literal.ofChars? (Literal.signed negative (d.chars layout)) = some l ∧
      l.negative = negative ∧ l.magnitude = d.value := by
  obtain ⟨k, hds, hvalue, hlength⟩ := exists_isDigits hpos
  -- Every zero that is taken off multiplies what the other digits denote by ten.
  have hscaled : (naturalOf (trimZeros (naturalChars d.digits)) : ℚ) *
      10 ^ (d.exponent + ((naturalChars d.digits).length - 1 : ℕ) + 1 -
        (trimZeros (naturalChars d.digits)).length) = d.value := by
    have hone := List.length_pos_iff.2 hds.ne_nil
    have hexponent : d.exponent + ((naturalChars d.digits).length - 1 : ℕ) + 1 -
        (trimZeros (naturalChars d.digits)).length = k + d.exponent := by omega
    rw [hexponent, zpow_add₀ (by norm_num), zpow_natCast, ← mul_assoc, value]
    congr 1
    exact_mod_cast hvalue.symm
  simp only [chars]
  rw [← hscaled]
  split
  · exact exists_literal_pointChars negative hds _
  · exact exists_literal_scientificChars negative hds _

end Decimal

/-! ## Doubles -/

/-- The text of a double is a literal with the sign of the double, and no number of the format is nearer
    to what it denotes than the double itself. -/
theorem Number.exists_literal_of_double (x : Binary64) :
    ∃ l, Literal.ofChars? (double x).text.toList = some l ∧ l.negative = x.negative ∧
      x.IsNearestTo l.magnitude := by
  have hchars : (double x).text.toList = Literal.signed x.negative
      (if x.mantissa = 0 then ['0', '.', '0'] else x.shortest.chars layout) := by
    rw [text, String.toList_ofList]
    rfl
  rw [hchars]
  by_cases hzero : x.mantissa = 0
  · rw [if_pos hzero]
    refine ⟨⟨x.negative, ['0'], ['0'], none, true⟩,
      Literal.ofChars?_point x.negative Literal.isWhole_zero (by simp) (by simp), rfl, ?_⟩
    -- Zero is the one double whose decimal has no digits to search for.
    have hliteral : Literal.magnitude ⟨x.negative, ['0'], ['0'], none, true⟩ = x.magnitude := by
      rw [Binary64.magnitude, hzero, Nat.cast_zero, zero_mul]
      exact zero_mul _
    rw [hliteral]
    exact x.isNearestTo_magnitude
  · have hpos : 0 < x.mantissa := Nat.pos_of_ne_zero hzero
    rw [if_neg hzero]
    obtain ⟨l, hl, hsign, hvalue⟩ := Decimal.exists_literal x.negative layout
      (Binary64.pos_of_readsBack hpos (Binary64.readsBack_shortest hpos))
    exact ⟨l, hl, hsign, hvalue ▸ Binary64.isNearestTo_shortest hpos⟩

end FilterQuery
