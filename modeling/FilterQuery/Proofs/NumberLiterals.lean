import FilterQuery.Json.Number
import Mathlib.Algebra.Order.Ring.Nat

/-!
# Number literals

A number literal is read part by part: the sign, the digits before the point, those behind it, and the
exponent. This file says what each part gives, for the literals that the layouts of numbers write.

## Key results

- `Number.naturalOf_append`, `Number.naturalOf_naturalChars`: what rows of digits denote
- `Number.digits?_append`: a row of digits is read up to its end
- `Number.Literal.ofChars?_whole`, `Number.Literal.ofChars?_point`, `Number.Literal.ofChars?_scientific`:
  the literals without a point, with a point, and with an exponent
-/

namespace FilterQuery

/-! ## Digits -/

namespace Decimal

/-- The digits of a natural are digits. -/
theorem isDigit_of_mem_naturalChars {n : Nat} {c : Char} (h : c ∈ naturalChars n) : c.isDigit :=
  Nat.isDigit_of_mem_toDigits (by decide) (by decide) h

end Decimal

namespace Number

/-- The core library has the same reading of digits. -/
private theorem naturalOf_eq (ds : List Char) : naturalOf ds = Nat.ofDigitChars 10 ds 0 := by
  rw [Nat.ofDigitChars_eq_foldl]
  rfl

/-- Digits count for as many powers of ten as digits follow. -/
theorem naturalOf_append (ds fs : List Char) :
    naturalOf (ds ++ fs) = naturalOf ds * 10 ^ fs.length + naturalOf fs := by
  rw [naturalOf_eq, naturalOf_eq, naturalOf_eq, Nat.ofDigitChars_append,
    Nat.ofDigitChars_eq_ofDigitChars_zero, Nat.mul_comm]

/-- Zeros denote zero. -/
theorem naturalOf_replicate_zero (k : Nat) : naturalOf (List.replicate k '0') = 0 := by
  rw [naturalOf_eq, Nat.ofDigitChars_replicate_zero, Nat.mul_zero]

/-- The digits of a natural denote it. -/
theorem naturalOf_naturalChars (n : Nat) : naturalOf (Decimal.naturalChars n) = n := by
  rw [naturalOf_eq, Decimal.naturalChars, Nat.ofDigitChars_ten_toDigits]

/-- A row of digits is read up to the first character that is none. -/
theorem digits?_append {ds rest : List Char} (hne : ds ≠ []) (hdigits : ∀ c ∈ ds, c.isDigit)
    (hrest : ∀ c ∈ rest.head?, c.isDigit = false) : digits? (ds ++ rest) = some (ds, rest) := by
  -- What follows the row adds nothing to it, and loses nothing with it.
  have htake : rest.takeWhile Char.isDigit = [] := by
    cases rest with
    | nil => rfl
    | cons c cs => rw [List.takeWhile_cons_of_neg (by simp [hrest c rfl])]
  have hdrop : rest.dropWhile Char.isDigit = rest := by
    cases rest with
    | nil => rfl
    | cons c cs => rw [List.dropWhile_cons_of_neg (by simp [hrest c rfl])]
  rw [digits?, List.takeWhile_append_of_pos hdigits, List.dropWhile_append_of_pos hdigits, htake,
    hdrop, List.append_nil]
  cases ds with
  | nil => exact absurd rfl hne
  | cons d ds => rfl

/-- A row of digits alone is read to its end. -/
theorem digits?_of_forall {ds : List Char} (hne : ds ≠ []) (hdigits : ∀ c ∈ ds, c.isDigit) :
    digits? ds = some (ds, []) := by
  have hnothing : ∀ c ∈ ([] : List Char).head?, c.isDigit = false := nofun
  have happend := digits?_append hne hdigits hnothing
  rwa [List.append_nil] at happend

namespace Literal

/-- A sign before the characters of a literal. -/
def signed (negative : Bool) (s : List Char) : List Char :=
  if negative then '-' :: s else s

/-- Digits that may stand before the point: at least one, and no zero before another. -/
structure IsWhole (ds : List Char) : Prop where
  ne_nil : ds ≠ []
  isDigit : ∀ c ∈ ds, c.isDigit
  eq_zero_of_head : ds.head? = some '0' → ds.length = 1

variable {whole fraction rest : List Char}

/-- The sign and the digits before the point are read first. -/
private theorem ofChars?_signed (negative : Bool) (hwhole : IsWhole whole)
    (hrest : ∀ c ∈ rest.head?, c.isDigit = false) :
    ofChars? (signed negative (whole ++ rest)) = behindWhole? negative whole rest := by
  have hdigits := digits?_append hwhole.ne_nil hwhole.isDigit hrest
  -- The row of digits passes the check for leading zeros.
  have hzero : ¬ (whole.head? = some '0' ∧ whole.length ≠ 1) :=
    fun h => h.2 (hwhole.eq_zero_of_head h.1)
  unfold ofChars? signed
  cases negative with
  | true => simp only [if_true, hdigits, hzero, bind, Option.bind_some, if_false]
  | false =>
    simp only [Bool.false_eq_true, if_false]
    split
    · -- The first character is a digit, and so no sign.
      rename_i s hdash
      obtain ⟨c, ds, rfl⟩ := List.exists_cons_of_ne_nil hwhole.ne_nil
      obtain rfl := (List.cons.inj hdash).1
      exact absurd (hwhole.isDigit _ (List.mem_cons_self ..)) (by decide)
    · simp only [hdigits, hzero, bind, Option.bind_some, if_false]

/-- A literal without a point. -/
theorem ofChars?_whole (negative : Bool) (hwhole : IsWhole whole) :
    ofChars? (signed negative whole) = some ⟨negative, whole, [], none, false⟩ := by
  have hnothing : ∀ c ∈ ([] : List Char).head?, c.isDigit = false := nofun
  have hread := ofChars?_signed negative hwhole hnothing
  rwa [List.append_nil] at hread

/-- A literal with a plain point. -/
theorem ofChars?_point (negative : Bool) (hwhole : IsWhole whole) (hne : fraction ≠ [])
    (hfraction : ∀ c ∈ fraction, c.isDigit) :
    ofChars? (signed negative (whole ++ '.' :: fraction)) =
      some ⟨negative, whole, fraction, none, true⟩ := by
  rw [ofChars?_signed negative hwhole (by simp)]
  simp only [behindWhole?, digits?_of_forall hne hfraction, Option.map_some, bind, Option.bind_some]

/-- A literal with an exponent. -/
theorem ofChars?_scientific (negative : Bool) (hwhole : IsWhole whole)
    (hfraction : ∀ c ∈ fraction, c.isDigit) {s : List Char} {e : Int}
    (hexponent : exponent? s = some e) :
    ofChars? (signed negative (whole ++
        ((if fraction = [] then [] else '.' :: fraction) ++ 'e' :: s))) =
      some ⟨negative, whole, fraction, some e, !fraction.isEmpty⟩ := by
  -- Without digits behind it the point is not written, and the exponent follows at once.
  cases fraction with
  | nil =>
    rw [if_pos rfl, List.nil_append, ofChars?_signed negative hwhole (by simp)]
    simp [behindWhole?, hexponent]
  | cons f fs =>
    have hdigits : digits? (f :: fs ++ 'e' :: s) = some (f :: fs, 'e' :: s) :=
      digits?_append (by simp) hfraction (by simp)
    rw [if_neg (by simp), List.cons_append, ofChars?_signed negative hwhole (by simp)]
    simp only [behindWhole?, hdigits, Option.map_some, bind, Option.bind_some]
    simp [hexponent]

end Literal

/-- The exponent of a literal, as the decimal layout writes it. -/
theorem exponent?_signed (e : Int) :
    exponent? ((if e < 0 then '-' else '+') :: Decimal.naturalChars e.natAbs) = some e := by
  have hdigits : digits? (Decimal.naturalChars e.natAbs) = some (Decimal.naturalChars e.natAbs, []) :=
    digits?_of_forall Nat.toDigits_ne_nil fun _ => Decimal.isDigit_of_mem_naturalChars
  -- The sign is written in either case, and read back by the same comparison.
  by_cases hsign : e < 0
  · simp only [exponent?, hsign, if_true, hdigits, naturalOf_naturalChars, Option.some.injEq]
    omega
  · simp only [exponent?, hsign, if_false, hdigits, naturalOf_naturalChars, Option.some.injEq,
      Bool.false_eq_true]
    omega

end Number

end FilterQuery
