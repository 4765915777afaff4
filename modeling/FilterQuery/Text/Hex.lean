/-! # Hexadecimal digits

The sixteen digits in both cases, numbers written with them and read back from them.

* `hexValue?_hexDigit`, `hexValue?_upperHexDigit`  a written digit reads back as its value
-/

namespace FilterQuery.Text

/-- The lower-case digit of a value below sixteen. -/
def hexDigit (n : Nat) : Char :=
  if n < 10 then Char.ofNat (0x30 + n) else Char.ofNat (0x61 + (n - 10))

/-- The upper-case digit of a value below sixteen. -/
def upperHexDigit (n : Nat) : Char :=
  if n < 10 then Char.ofNat (0x30 + n) else Char.ofNat (0x41 + (n - 10))

/-- The value of a digit of either case. -/
def hexValue? (c : Char) : Option Nat :=
  let n := c.toNat
  if 0x30 ≤ n ∧ n ≤ 0x39 then some (n - 0x30)
  else if 0x41 ≤ n ∧ n ≤ 0x46 then some (n - 0x41 + 10)
  else if 0x61 ≤ n ∧ n ≤ 0x66 then some (n - 0x61 + 10)
  else none

/-- The number that a row of digits denotes, if all of them are digits. -/
def hexNumber? (ds : List Char) : Option Nat :=
  ds.foldlM (fun n d => (hexValue? d).map (16 * n + ·)) 0

/-- The lower-case digits of a number, without leading zeros; zero has one digit. -/
def hexDigits (n : Nat) : List Char :=
  if n < 16 then [hexDigit n] else hexDigits (n / 16) ++ [hexDigit (n % 16)]

/-- A small hex digit is read as what it was written for. -/
theorem hexValue?_hexDigit {n : Nat} (h : n < 16) : hexValue? (hexDigit n) = some n := by
  revert n
  decide

/-- A capital hex digit is read as what it was written for. -/
theorem hexValue?_upperHexDigit {n : Nat} (h : n < 16) :
    hexValue? (upperHexDigit n) = some n := by
  revert n
  decide

/-- The digits of a number read back as the number. -/
theorem hexNumber?_hexDigits (n : Nat) : hexNumber? (hexDigits n) = some n := by
  fun_induction hexDigits n with
  | case1 n h => simp [hexNumber?, hexValue?_hexDigit h]
  | case2 n h ih =>
    simp only [hexNumber?] at ih
    simp only [hexNumber?, List.foldlM_append, ih, Option.bind_eq_bind, Option.bind_some,
      List.foldlM_cons, List.foldlM_nil, hexValue?_hexDigit (Nat.mod_lt n (by decide)),
      Option.map_some, Option.pure_def]
    congr 1
    omega

end FilterQuery.Text
