import FilterQuery.Text.Utf8

/-!
# Reading UTF-8 that was written

Bytes that were written as UTF-8 are read back as the characters they came from. The reader goes byte by
byte and keeps what is begun of a character, so the proof follows one character through its bytes: the
first leaves a character begun, `Begins`, each further byte keeps to the bounds that the one before has
set, and the last completes the code point.

The bounds of the second byte are where the cases lie: they exclude overlong forms, surrogates and what
is beyond the last code point, none of which a character has.

## Key results

- `begins_two`, `begins_three`, `begins_four`: what the first byte of a longer character leaves open
- `decodeFrom_trail`, `decodeFrom_last`: a further byte of a character
- `decodeFrom_utf8EncodeChar`: the bytes of a character are read as this character
- `decode_encode`: the bytes of a text are read as this text
-/

namespace FilterQuery.Utf8

/-! ## Bytes of a character -/

/-- A byte below 256 is its own value. -/
theorem toNat_ofNat {n : Nat} (h : n < 256) : (UInt8.ofNat n).toNat = n :=
  UInt8.toNat_ofNat_of_lt h

/-- A byte after the first: the lowest six bits of a number. -/
def trail (n : Nat) : UInt8 :=
  UInt8.ofNat (n % 64 + 128)

/-- The value of a further byte lies between 128 and 191. -/
@[simp] theorem toNat_trail (n : Nat) : (trail n).toNat = n % 64 + 128 :=
  toNat_ofNat (by omega)

/-- A lower bound of a further byte is one of its value. -/
private theorem le_trail_iff {low : UInt8} {n : Nat} : low ≤ trail n ↔ low.toNat ≤ n % 64 + 128 := by
  rw [UInt8.le_iff_toNat_le, toNat_trail]

private theorem trail_le_iff {high : UInt8} {n : Nat} : trail n ≤ high ↔ n % 64 + 128 ≤ high.toNat := by
  rw [UInt8.le_iff_toNat_le, toNat_trail]

/-- Without bounds of its own, every such byte may come next. -/
private theorem trail_within (n : Nat) : 0x80 ≤ trail n ∧ trail n ≤ 0xBF := by
  have hlow : (0x80 : UInt8).toNat = 0x80 := rfl
  have hhigh : (0xBF : UInt8).toNat = 0xBF := rfl
  rw [le_trail_iff, trail_le_iff, hlow, hhigh]
  omega

/-! ## One step of the reader -/

variable {n owed code : Nat} {low high : UInt8} {bs : List UInt8}

private theorem decodeFrom_cons (p : Option Begun) (b : UInt8) (bs : List UInt8) :
    decodeFrom p (b :: bs) = (next p b).1 ++ decodeFrom (next p b).2 bs := rfl

/-- A byte in the bounds completes the code point, or owes one byte less. -/
private theorem next_trail (hlow : low ≤ trail n) (hhigh : trail n ≤ high) :
    next (some ⟨owed, n / 64, low, high⟩) (trail n) =
      if owed ≤ 1 then ([Char.ofNat n], none) else ([], some ⟨owed - 1, n, 0x80, 0xBF⟩) := by
  -- The six bits of the byte are the lowest ones of the code point.
  have hcode : 64 * (n / 64) + (n % 64 + 128 - 0x80) = n := by omega
  simp only [next, hlow, hhigh, and_self, if_true, toNat_trail, hcode]

/-- A byte in the bounds adds six bits to the code point. -/
theorem decodeFrom_trail (hlow : low ≤ trail n) (hhigh : trail n ≤ high) :
    decodeFrom (some ⟨owed + 2, n / 64, low, high⟩) (trail n :: bs) =
      decodeFrom (some ⟨owed + 1, n, 0x80, 0xBF⟩) bs := by
  have howed : ¬ owed + 2 ≤ 1 := by omega
  rw [decodeFrom_cons, next_trail hlow hhigh, if_neg howed]
  rfl

/-- The last byte completes the code point. -/
theorem decodeFrom_last (hlow : low ≤ trail n) (hhigh : trail n ≤ high) :
    decodeFrom (some ⟨1, n / 64, low, high⟩) (trail n :: bs) =
      Char.ofNat n :: decodeFrom none bs := by
  rw [decodeFrom_cons, next_trail hlow hhigh, if_pos (Nat.le_refl 1)]
  rfl

/-! ## The first byte -/

/-- The byte begins a character: so many bytes are owed, the bits of the code point so far are known,
    and the next byte may be `second`. -/
def Begins (b : UInt8) (owed code : Nat) (second : UInt8) : Prop :=
  ∃ low high, first b = ([], some ⟨owed, code, low, high⟩) ∧ low ≤ second ∧ second ≤ high

/-- A byte that begins a character is read without completing one. -/
private theorem Begins.decodeFrom_eq {b second : UInt8} (h : Begins b owed code second) :
    ∃ low high, (low ≤ second ∧ second ≤ high) ∧
      ∀ bs, decodeFrom none (b :: bs) = decodeFrom (some ⟨owed, code, low, high⟩) bs := by
  obtain ⟨low, high, hfirst, hbounds⟩ := h
  refine ⟨low, high, hbounds, fun bs => ?_⟩
  rw [decodeFrom_cons, next, hfirst]
  rfl

/-- A byte below 128 is a character. -/
private theorem first_of_le (h : n ≤ 0x7F) : first (UInt8.ofNat n) = ([Char.ofNat n], none) := by
  have hlt : n < 0x80 := by omega
  simp only [first, toNat_ofNat (show n < 256 by omega), hlt, if_true]

/-- What the first byte of two leaves open. -/
theorem begins_two (h : 0x80 ≤ n) (h' : n ≤ 0x7FF) :
    Begins (UInt8.ofNat (n / 64 % 32 + 192)) 1 (n / 64) (trail n) := by
  -- The code point has eleven bits, of which the first byte holds the upper five.
  have hbyte : n / 64 % 32 + 192 = n / 64 + 0xC0 := by omega
  refine ⟨0x80, 0xBF, ?_, trail_within n⟩
  have h1 : ¬ n / 64 + 0xC0 < 0x80 := by omega
  have h2 : 0xC2 ≤ n / 64 + 0xC0 ∧ n / 64 + 0xC0 ≤ 0xDF := by omega
  simp only [hbyte, first, toNat_ofNat (show n / 64 + 0xC0 < 256 by omega), h1, h2, and_self,
    if_true, if_false, Nat.add_sub_cancel]

/-- The first byte of three. The lowest one excludes overlong forms, one other excludes surrogates. -/
private theorem first_of_three {k : Nat} (h : k < 16) :
    first (UInt8.ofNat (k + 0xE0)) =
      ([], some ⟨2, k, if k = 0 then 0xA0 else 0x80, if k = 13 then 0x9F else 0xBF⟩) := by
  by_cases h0 : k = 0
  · subst h0
    rfl
  by_cases h13 : k = 13
  · subst h13
    rfl
  -- Any other byte of this row has the bounds of every further byte.
  have h1 : ¬ k + 0xE0 < 0x80 := by omega
  have h2 : ¬ (0xC2 ≤ k + 0xE0 ∧ k + 0xE0 ≤ 0xDF) := by omega
  have h3 : ¬ k + 0xE0 = 0xE0 := by omega
  have h4 : ¬ k + 0xE0 = 0xED := by omega
  have h5 : 0xE1 ≤ k + 0xE0 ∧ k + 0xE0 ≤ 0xEF := by omega
  simp only [first, toNat_ofNat (show k + 0xE0 < 256 by omega), if_neg h1, if_neg h2, if_neg h3,
    if_neg h4, if_pos h5, if_neg h0, if_neg h13, Nat.add_sub_cancel]

/-- What the first byte of three leaves open. The next byte keeps to the bounds because the code point
    is no surrogate and needs three bytes. -/
theorem begins_three (h : 0x800 ≤ n) (h' : n ≤ 0xFFFF) (hs : n < 0xD800 ∨ 0xDFFF < n) :
    Begins (UInt8.ofNat (n / 4096 % 16 + 224)) 2 (n / 64 / 64) (trail (n / 64)) := by
  have hk : n / 64 / 64 < 16 := by omega
  have hbyte : n / 4096 % 16 + 224 = n / 64 / 64 + 0xE0 := by omega
  rw [hbyte]
  -- The bounds depend on the first byte; each of them is a matter of the code point.
  refine ⟨_, _, first_of_three hk, ?_, ?_⟩
  · rw [le_trail_iff]
    split
    · show 0xA0 ≤ n / 64 % 64 + 128
      omega
    · show 0x80 ≤ n / 64 % 64 + 128
      omega
  · rw [trail_le_iff]
    split
    · show n / 64 % 64 + 128 ≤ 0x9F
      omega
    · show n / 64 % 64 + 128 ≤ 0xBF
      omega

/-- The first byte of four. The lowest one excludes overlong forms, the highest one what is beyond the
    last code point. -/
private theorem first_of_four {k : Nat} (h : k < 5) :
    first (UInt8.ofNat (k + 0xF0)) =
      ([], some ⟨3, k, if k = 0 then 0x90 else 0x80, if k = 4 then 0x8F else 0xBF⟩) := by
  by_cases h0 : k = 0
  · subst h0
    rfl
  by_cases h4 : k = 4
  · subst h4
    rfl
  -- Between the lowest and the highest byte there are three.
  have hcases : k = 1 ∨ k = 2 ∨ k = 3 := by omega
  rcases hcases with rfl | rfl | rfl <;> rfl

/-- What the first byte of four leaves open. The next byte keeps to the bounds because the code point
    exists and needs four bytes. -/
theorem begins_four (h : 0xFFFF < n) (h' : n < 0x110000) :
    Begins (UInt8.ofNat (n / 262144 % 8 + 240)) 3 (n / 4096 / 64) (trail (n / 4096)) := by
  have hk : n / 4096 / 64 < 5 := by omega
  have hbyte : n / 262144 % 8 + 240 = n / 4096 / 64 + 0xF0 := by omega
  rw [hbyte]
  refine ⟨_, _, first_of_four hk, ?_, ?_⟩
  · rw [le_trail_iff]
    split
    · show 0x90 ≤ n / 4096 % 64 + 128
      omega
    · show 0x80 ≤ n / 4096 % 64 + 128
      omega
  · rw [trail_le_iff]
    split
    · show n / 4096 % 64 + 128 ≤ 0x8F
      omega
    · show n / 4096 % 64 + 128 ≤ 0xBF
      omega

/-! ## Characters and texts -/

private theorem decodeFrom_two (h : 0x80 ≤ n) (h' : n ≤ 0x7FF) (bs : List UInt8) :
    decodeFrom none (UInt8.ofNat (n / 64 % 32 + 192) :: trail n :: bs) =
      Char.ofNat n :: decodeFrom none bs := by
  obtain ⟨low, high, ⟨hlow, hhigh⟩, hfirst⟩ := (begins_two h h').decodeFrom_eq
  exact (hfirst _).trans (decodeFrom_last hlow hhigh)

/-- Three bytes are read as one character. -/
private theorem decodeFrom_three (h : 0x800 ≤ n) (h' : n ≤ 0xFFFF) (hs : n < 0xD800 ∨ 0xDFFF < n)
    (bs : List UInt8) :
    decodeFrom none (UInt8.ofNat (n / 4096 % 16 + 224) :: trail (n / 64) :: trail n :: bs) =
      Char.ofNat n :: decodeFrom none bs := by
  obtain ⟨low, high, ⟨hlow, hhigh⟩, hfirst⟩ := (begins_three h h' hs).decodeFrom_eq
  calc decodeFrom none (UInt8.ofNat (n / 4096 % 16 + 224) :: trail (n / 64) :: trail n :: bs)
      = decodeFrom (some ⟨2, n / 64 / 64, low, high⟩) (trail (n / 64) :: trail n :: bs) :=
        hfirst _
    _ = decodeFrom (some ⟨1, n / 64, 0x80, 0xBF⟩) (trail n :: bs) := decodeFrom_trail hlow hhigh
    _ = Char.ofNat n :: decodeFrom none bs :=
        decodeFrom_last (trail_within n).1 (trail_within n).2

/-- Four bytes are read as one character. -/
private theorem decodeFrom_four (h : 0xFFFF < n) (h' : n < 0x110000) (bs : List UInt8) :
    decodeFrom none (UInt8.ofNat (n / 262144 % 8 + 240) :: trail (n / 4096) :: trail (n / 64) ::
        trail n :: bs) =
      Char.ofNat n :: decodeFrom none bs := by
  -- Two bytes hold six bits each, so two steps take off twelve.
  have hdiv : n / 4096 = n / 64 / 64 := by omega
  obtain ⟨low, high, ⟨hlow, hhigh⟩, hfirst⟩ := (begins_four h h').decodeFrom_eq
  calc decodeFrom none (UInt8.ofNat (n / 262144 % 8 + 240) :: trail (n / 4096) ::
        trail (n / 64) :: trail n :: bs)
      = decodeFrom (some ⟨3, n / 4096 / 64, low, high⟩)
          (trail (n / 4096) :: trail (n / 64) :: trail n :: bs) := hfirst _
    _ = decodeFrom (some ⟨2, n / 4096, 0x80, 0xBF⟩) (trail (n / 64) :: trail n :: bs) :=
        decodeFrom_trail hlow hhigh
    _ = decodeFrom (some ⟨2, n / 64 / 64, 0x80, 0xBF⟩) (trail (n / 64) :: trail n :: bs) := by
        rw [hdiv]
    _ = decodeFrom (some ⟨1, n / 64, 0x80, 0xBF⟩) (trail n :: bs) :=
        decodeFrom_trail (trail_within _).1 (trail_within _).2
    _ = Char.ofNat n :: decodeFrom none bs :=
        decodeFrom_last (trail_within n).1 (trail_within n).2

/-- The bytes of a character are read as this character, whatever follows them. -/
theorem decodeFrom_utf8EncodeChar (c : Char) (bs : List UInt8) :
    decodeFrom none (String.utf8EncodeChar c ++ bs) = c :: decodeFrom none bs := by
  have hvalid : c.val.toNat < 0xD800 ∨ 0xDFFF < c.val.toNat ∧ c.val.toNat < 0x110000 := c.valid
  have hchar : Char.ofNat c.val.toNat = c := Char.ofNat_toNat c
  simp only [String.utf8EncodeChar]
  generalize c.val.toNat = n at hvalid hchar
  subst hchar
  -- As many cases as a character can have bytes.
  split
  · rename_i h1
    rw [List.singleton_append, decodeFrom_cons, next, first_of_le h1]
    rfl
  split
  · rename_i h1 h2
    exact decodeFrom_two (by omega) h2 bs
  split
  · rename_i h1 h2 h3
    exact decodeFrom_three (by omega) h3 (by omega) bs
  · rename_i h1 h2 h3
    exact decodeFrom_four (by omega) (by omega) bs

/-- A text is read back from its bytes. -/
theorem decode_encode (s : List Char) : decode (encode s) = s := by
  induction s with
  | nil => rfl
  | cons c cs ih =>
    -- The bytes of the first character come first, and are read in front of all others.
    have hread : decode (encode (c :: cs)) = c :: decode (encode cs) :=
      decodeFrom_utf8EncodeChar c (encode cs)
    rw [hread, ih]

end FilterQuery.Utf8
