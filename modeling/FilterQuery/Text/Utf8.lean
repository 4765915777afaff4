/-! # UTF-8

Characters as bytes, and bytes as characters. Reading never fails: where the bytes are no UTF-8,
each longest row of bytes that begins a character, or else a single byte, becomes one replacement
character.
-/

namespace FilterQuery.Utf8

/-- The bytes of a text. -/
def encode (s : List Char) : List UInt8 :=
  s.flatMap String.utf8EncodeChar

/-- What stands for bytes that cannot be read. -/
def replacement : Char := '\ufffd'

/-- A character of which some bytes are read: the bytes still owed, the code point so far, and the
bounds of the next byte. -/
structure Begun where
  owed : Nat
  code : Nat
  low : UInt8
  high : UInt8

/-- The first byte of a character: what it gives at once, and what it leaves open. -/
def first (b : UInt8) : List Char × Option Begun :=
  let n := b.toNat
  if n < 0x80 then ([Char.ofNat n], none)
  else if 0xC2 ≤ n ∧ n ≤ 0xDF then ([], some ⟨1, n - 0xC0, 0x80, 0xBF⟩)
  else if n = 0xE0 then ([], some ⟨2, 0, 0xA0, 0xBF⟩)
  else if n = 0xED then ([], some ⟨2, 0xD, 0x80, 0x9F⟩)
  else if 0xE1 ≤ n ∧ n ≤ 0xEF then ([], some ⟨2, n - 0xE0, 0x80, 0xBF⟩)
  else if n = 0xF0 then ([], some ⟨3, 0, 0x90, 0xBF⟩)
  else if 0xF1 ≤ n ∧ n ≤ 0xF3 then ([], some ⟨3, n - 0xF0, 0x80, 0xBF⟩)
  else if n = 0xF4 then ([], some ⟨3, 4, 0x80, 0x8F⟩)
  else ([replacement], none)

/-- A byte after the first bytes of a character, if there are any. -/
def next (p : Option Begun) (b : UInt8) : List Char × Option Begun :=
  match p with
  | none => first b
  | some p =>
    if p.low ≤ b ∧ b ≤ p.high then
      let code := 64 * p.code + (b.toNat - 0x80)
      if p.owed ≤ 1 then ([Char.ofNat code], none) else ([], some ⟨p.owed - 1, code, 0x80, 0xBF⟩)
    else
      let (cs, p) := first b
      (replacement :: cs, p)

/-- Reads the bytes after the first bytes of a character, if there are any. -/
def decodeFrom (p : Option Begun) : List UInt8 → List Char
  | [] => if p.isSome then [replacement] else []
  | b :: bs =>
    let (cs, p) := next p b
    cs ++ decodeFrom p bs

/-- The characters that bytes stand for. -/
def decode (bs : List UInt8) : List Char :=
  decodeFrom none bs

/-- The bytes are those of a text: nothing in them is lost by reading. -/
def isText (bs : List UInt8) : Bool :=
  encode (decode bs) == bs

end FilterQuery.Utf8
