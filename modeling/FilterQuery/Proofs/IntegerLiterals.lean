import FilterQuery.Proofs.NumberLiterals

/-!
# Integer literals

A JSON integer literal is a row of decimal digits without leading zeros, perhaps behind a minus sign.
If it denotes a 64-bit integer, signed or unsigned, it becomes this integer, whose text is the literal
again. Every other literal becomes a double, if it is not too large for one, and the text of a double
has a point or an exponent, which no integer literal has. The negative zero is among these others, for
no integer has its sign.

## Key results

- `IntegerLiteral.toDigits_magnitude`: the digits of a literal are those of the natural they denote
- `IntegerLiteral.ofLiteral?_of_fits`, `IntegerLiteral.ofLiteral?_of_not_fits`: the number of a literal
- `IntegerLiteral.text_eq_iff_fits`: the number of a literal is written like the literal exactly when it
  is an integer
-/

namespace FilterQuery

/-- An integer literal of JSON. -/
structure IntegerLiteral where
  negative : Bool
  digits : List Char
  digits_ne_nil : digits ≠ []
  isDigit : ∀ c ∈ digits, c.isDigit
  eq_zero_of_head : digits.head? = some '0' → digits = ['0']

namespace IntegerLiteral

/-- The characters of a literal. -/
def chars (l : IntegerLiteral) : List Char :=
  (if l.negative then ['-'] else []) ++ l.digits

/-- A literal as it is written. -/
def text (l : IntegerLiteral) : String :=
  String.ofList l.chars

/-- The natural that the digits denote. -/
def magnitude (l : IntegerLiteral) : Nat :=
  Number.naturalOf l.digits

/-- The integer that the literal denotes. -/
def value (l : IntegerLiteral) : Int :=
  if l.negative then -(l.magnitude : Int) else l.magnitude

private theorem value_of_negative {l : IntegerLiteral} (h : l.negative = true) :
    l.value = -(l.magnitude : Int) := if_pos h

private theorem value_of_not_negative {l : IntegerLiteral} (h : l.negative = false) :
    l.value = l.magnitude := if_neg (by simp [h])

/-- The literal denotes a 64-bit integer, signed or unsigned, and is not the negative zero. -/
def Fits (l : IntegerLiteral) : Prop :=
  l.text ≠ "-0" ∧ -0x8000000000000000 ≤ l.value ∧ l.value ≤ 0xFFFFFFFFFFFFFFFF

instance (l : IntegerLiteral) : Decidable l.Fits :=
  inferInstanceAs (Decidable (_ ∧ _))

/-! ## Digits -/

/-- The codes of the decimal digits are 48 to 57. -/
theorem toNat_of_isDigit {c : Char} (h : c.isDigit) : 48 ≤ c.toNat ∧ c.toNat ≤ 57 := by
  simp only [Char.isDigit, Bool.and_eq_true, decide_eq_true_eq] at h
  exact h

/-- A digit is the character of the natural that it denotes. -/
private theorem digitChar_sub {c : Char} (h : c.isDigit) : Nat.digitChar (c.toNat - 48) = c := by
  have hrange := toNat_of_isDigit h
  -- Characters are equal when their codes are.
  apply Char.toNat_inj.1
  rw [Nat.toNat_digitChar_of_lt_ten (by omega)]
  omega

/-- Digits that follow those of a positive natural are its further digits. -/
private theorem toDigits_append_digits {n : Nat} (hn : 0 < n) {ds : List Char}
    (h : ∀ c ∈ ds, c.isDigit) :
    Nat.toDigits 10 n ++ ds =
      Nat.toDigits 10 (ds.foldl (fun n d => 10 * n + (d.toNat - 0x30)) n) := by
  -- The natural so far is generalized, and stays positive with every further digit.
  induction ds generalizing n with
  | nil => rw [List.append_nil, List.foldl_nil]
  | cons c ds ih =>
    rw [List.forall_mem_cons] at h
    have hrange := toNat_of_isDigit h.1
    -- One digit more is ten times the natural and the digit.
    have hlast : Nat.toDigits 10 n ++ [c] = Nat.toDigits 10 (10 * n + (c.toNat - 0x30)) := by
      have hdigit : c.toNat - 0x30 < 10 := by omega
      have happend := Nat.toDigits_append_toDigits (b := 10) (by decide) hn hdigit
      rwa [Nat.toDigits_of_lt_base hdigit, digitChar_sub h.1] at happend
    calc Nat.toDigits 10 n ++ c :: ds
        = Nat.toDigits 10 n ++ [c] ++ ds := by simp
      _ = Nat.toDigits 10 (10 * n + (c.toNat - 0x30)) ++ ds := by rw [hlast]
      _ = _ := ih (by omega) h.2

/-- Without leading zeros, a natural has one row of digits. -/
theorem toDigits_magnitude (l : IntegerLiteral) : Nat.toDigits 10 l.magnitude = l.digits := by
  obtain ⟨_, digits, hne, hdigits, hzero⟩ := l
  show Nat.toDigits 10 (Number.naturalOf digits) = digits
  cases digits with
  | nil => exact absurd rfl hne
  | cons c ds =>
    rw [List.forall_mem_cons] at hdigits
    have hrange := toNat_of_isDigit hdigits.1
    by_cases hc : c = '0'
    · -- A literal that begins with zero is nothing else.
      subst hc
      rw [hzero rfl]
      rfl
    · -- A first digit other than zero is a positive natural, which the others follow.
      have hpositive : 0 < c.toNat - 48 := by
        have hne : c.toNat ≠ 48 := fun h => hc (Char.toNat_inj.1 h)
        omega
      have hfirst : Nat.toDigits 10 (c.toNat - 48) = [c] := by
        rw [Nat.toDigits_of_lt_base (by omega), digitChar_sub hdigits.1]
      have hnumber : Number.naturalOf (c :: ds) =
          ds.foldl (fun n d => 10 * n + (d.toNat - 0x30)) (c.toNat - 48) := by
        rw [Number.naturalOf, List.foldl_cons, Nat.mul_zero, Nat.zero_add]
      rw [hnumber, ← toDigits_append_digits hpositive hdigits.2, hfirst, List.singleton_append]

/-- The one row of digits for zero is the digit zero. -/
private theorem magnitude_eq_zero_iff {l : IntegerLiteral} : l.magnitude = 0 ↔ l.digits = ['0'] := by
  constructor
  · intro h
    rw [← l.toDigits_magnitude, h, Nat.toDigits_zero]
  · intro h
    rw [magnitude, h]
    rfl

private theorem dash_notMem_digits (l : IntegerLiteral) : '-' ∉ l.digits :=
  fun h => absurd (l.isDigit _ h) (by decide)

/-- A literal is made of digits, apart from its sign. -/
theorem mem_chars (l : IntegerLiteral) {c : Char} (h : c ∈ l.chars) : c = '-' ∨ c.isDigit := by
  rw [chars, List.mem_append] at h
  rcases h with h | h
  · split at h
    · exact .inl (List.mem_singleton.1 h)
    · exact absurd h List.not_mem_nil
  · exact .inr (l.isDigit c h)

theorem chars_ne_nil (l : IntegerLiteral) : l.chars ≠ [] :=
  List.append_ne_nil_of_right_ne_nil _ l.digits_ne_nil

/-- The negative zero is the one literal with a sign and no magnitude. -/
private theorem text_eq_negative_zero_iff {l : IntegerLiteral} :
    l.text = "-0" ↔ l.negative = true ∧ l.magnitude = 0 := by
  have hdash := l.dash_notMem_digits
  rw [text, chars, ← String.toList_inj, String.toList_ofList, magnitude_eq_zero_iff]
  cases l.negative with
  | true => simp
  | false =>
    simp only [Bool.false_eq_true, if_false, List.nil_append, false_and, iff_false]
    -- Without a sign the text begins with a digit.
    intro h
    exact hdash (by simp [h])

/-! ## The number of a literal -/

/-- The digits are those of a number literal without a point. -/
private theorem isWhole (l : IntegerLiteral) : Number.Literal.IsWhole l.digits where
  ne_nil := l.digits_ne_nil
  isDigit := l.isDigit
  eq_zero_of_head h := by rw [l.eq_zero_of_head h, List.length_singleton]

/-- A literal is its sign and its digits. -/
private theorem ofChars?_chars (l : IntegerLiteral) :
    Number.Literal.ofChars? l.chars = some ⟨l.negative, l.digits, [], none, false⟩ := by
  have hchars : l.chars = Number.Literal.signed l.negative l.digits := by
    rw [chars, Number.Literal.signed]
    cases l.negative <;> rfl
  rw [hchars]
  exact Number.Literal.ofChars?_whole l.negative l.isWhole

/-- The integer of a literal is looked for among the 64-bit integers, and a negative zero is none. -/
private theorem integer?_eq (l : IntegerLiteral) :
    Number.integer? l.negative (Number.naturalOf l.digits) = if l.Fits then some l.value else none := by
  -- A negative literal is checked against the signed integers, any other against the unsigned.
  have hsigned : (1 <<< 63 : Nat) = 0x8000000000000000 := rfl
  have hunsigned : (1 <<< 64 : Nat) = 0xFFFFFFFFFFFFFFFF + 1 := rfl
  have hzero := text_eq_negative_zero_iff (l := l)
  have hmagnitude : Number.naturalOf l.digits = l.magnitude := rfl
  rw [Number.integer?, hsigned, hunsigned, hmagnitude]
  cases hnegative : l.negative with
  | true =>
    have hvalue := value_of_negative hnegative
    have hfits : l.Fits ↔ 1 ≤ l.magnitude ∧ l.magnitude ≤ 0x8000000000000000 := by
      rw [Fits, hvalue, ne_eq, hzero]
      simp only [hnegative, true_and]
      omega
    simp only [if_true, hfits, hvalue]
  | false =>
    have hvalue := value_of_not_negative hnegative
    have hfits : l.Fits ↔ l.magnitude < 0xFFFFFFFFFFFFFFFF + 1 := by
      rw [Fits, hvalue, ne_eq, hzero]
      simp only [hnegative, Bool.false_eq_true, false_and, not_false_eq_true, true_and]
      omega
    simp only [Bool.false_eq_true, if_false, hfits, hvalue]

/-- The number of a literal is that of its sign and its digits. -/
private theorem ofLiteral?_eq (l : IntegerLiteral) :
    Number.ofLiteral? l.chars =
      Number.Literal.number? ⟨l.negative, l.digits, [], none, false⟩ := by
  rw [Number.ofLiteral?, ofChars?_chars, Option.bind_some]

/-- A literal that denotes a 64-bit integer is read as this integer. -/
theorem ofLiteral?_of_fits {l : IntegerLiteral} (h : l.Fits) :
    Number.ofLiteral? l.chars = some (.integer l.value) := by
  rw [ofLiteral?_eq, Number.Literal.number?, integer?_eq, if_pos h]
  rfl

/-- A literal that is no 64-bit integer is read as a double, unless it is too large for one. -/
theorem ofLiteral?_of_not_fits {l : IntegerLiteral} (h : ¬ l.Fits) :
    Number.ofLiteral? l.chars =
      (Number.Literal.double? ⟨l.negative, l.digits, [], none, false⟩).map .double := by
  rw [ofLiteral?_eq, Number.Literal.number?, integer?_eq, if_neg h]
  rfl

/-! ## The text of the number -/

/-- The text of the integer is the literal. -/
theorem text_value_of_fits {l : IntegerLiteral} (h : l.Fits) :
    (Number.integer l.value).text = l.text := by
  have hzero : ¬ (l.negative = true ∧ l.magnitude = 0) := mt text_eq_negative_zero_iff.2 h.1
  have habs : l.value.natAbs = l.magnitude := by
    rw [value]
    split <;> omega
  -- The sign of the integer is the one of the literal, since the negative zero does not fit.
  have hsign : l.value < 0 ↔ l.negative = true := by
    cases hnegative : l.negative with
    | true =>
      simp only [hnegative, true_and] at hzero
      rw [value_of_negative hnegative]
      simp only [iff_true]
      omega
    | false =>
      rw [value_of_not_negative hnegative]
      simp only [Bool.false_eq_true, iff_false]
      omega
  rw [Number.text, Number.chars, habs, Decimal.naturalChars, l.toDigits_magnitude, text, chars]
  simp only [hsign]

/-- The text of a double has a point or an exponent. -/
private theorem mark_mem_chars (x : Binary64) (layout : Decimal.Layout) :
    '.' ∈ x.chars layout ∨ 'e' ∈ x.chars layout := by
  -- Both layouts of digits have a mark, and so has the double zero, which is laid out apart.
  have hpoint : ∀ ds e, '.' ∈ Decimal.pointChars ds e := by
    intro ds e
    simp only [Decimal.pointChars]
    split
    · simp
    · split <;> simp
  have hscientific : ∀ ds e, 'e' ∈ Decimal.scientificChars ds e := by
    intro ds e
    simp [Decimal.scientificChars]
  have hdecimal : ∀ d : Decimal, '.' ∈ d.chars layout ∨ 'e' ∈ d.chars layout := by
    intro d
    simp only [Decimal.chars]
    split
    · exact .inl (hpoint _ _)
    · exact .inr (hscientific _ _)
  have hmagnitude : '.' ∈ (if x.mantissa = 0 then ['0', '.', '0'] else x.shortest.chars layout) ∨
      'e' ∈ (if x.mantissa = 0 then ['0', '.', '0'] else x.shortest.chars layout) := by
    split
    · exact .inl (by decide)
    · exact hdecimal _
  rw [Binary64.chars]
  split
  · exact hmagnitude.imp (List.mem_cons_of_mem _) (List.mem_cons_of_mem _)
  · exact hmagnitude

/-- No integer literal is the text of a double. -/
theorem text_double_ne (l : IntegerLiteral) (x : Binary64) : (Number.double x).text ≠ l.text := by
  intro h
  have hchars : x.chars Number.layout = l.chars := String.ofList_injective h
  have hmark := mark_mem_chars x Number.layout
  rw [hchars] at hmark
  -- Neither mark is a dash or a digit.
  rcases hmark with hmark | hmark
  · exact absurd (l.mem_chars hmark) (by decide)
  · exact absurd (l.mem_chars hmark) (by decide)

/-- The number of a literal is written like the literal exactly when it is an integer. -/
theorem text_eq_iff_fits {l : IntegerLiteral} {n : Number} (h : Number.ofLiteral? l.chars = some n) :
    n.text = l.text ↔ l.Fits := by
  -- Both sides hold of the integers, and neither does of the doubles.
  by_cases hfits : l.Fits
  · rw [ofLiteral?_of_fits hfits] at h
    obtain rfl := Option.some.inj h
    exact iff_of_true (text_value_of_fits hfits) hfits
  · rw [ofLiteral?_of_not_fits hfits] at h
    obtain ⟨x, -, rfl⟩ := Option.map_eq_some_iff.1 h
    exact iff_of_false (l.text_double_ne x) hfits

end IntegerLiteral

end FilterQuery
