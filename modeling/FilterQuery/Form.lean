import FilterQuery.Search
import FilterQuery.Text.Hex
import FilterQuery.Text.Pieces
import FilterQuery.Text.Utf8

/-! # Query strings

Reading the parameters of a URL query string: pairs between `&`, names and values around the first
`=`, a plus for a space, and any byte as `%` and two hexadecimal digits. The filter string is the
parameter `q` and the sort string the parameter `s`; of repeated parameters the last counts.
`Form.encode` writes every byte of a text in the percent form.
-/

namespace FilterQuery.Form

/-- The bytes that a piece of a query string stands for. A percent sign without two digits after it
stands for itself. -/
def unescape : List UInt8 → List UInt8
  | [] => []
  | 0x25 :: a :: b :: bs =>
    match Text.hexValue? (Char.ofNat a.toNat), Text.hexValue? (Char.ofNat b.toNat) with
    | some h, some l => UInt8.ofNat (16 * h + l) :: unescape bs
    | _, _ => 0x25 :: unescape (a :: b :: bs)
  | b :: bs => (if b = 0x2B then 0x20 else b) :: unescape bs

/-- The text that a piece of a query string stands for. -/
def decode (s : List Char) : List Char :=
  Utf8.decode (unescape (Utf8.encode s))

/-- A byte as a percent sign and two digits. -/
def escapeByte (b : UInt8) : List Char :=
  ['%', Text.upperHexDigit (b.toNat / 16), Text.upperHexDigit (b.toNat % 16)]

/-- A text with every byte in the percent form. -/
def encode (s : List Char) : List Char :=
  (Utf8.encode s).flatMap escapeByte

/-- The name and the value of a parameter. -/
def parameter (piece : List Char) : List Char × List Char :=
  match Text.cut? '=' piece with
  | some (name, value) => (decode name, decode value)
  | none => (decode piece, [])

/-- The parameters of a query string, in their order. -/
def parameters (s : List Char) : List (List Char × List Char) :=
  (Text.words '&' s).map parameter

/-- The value of the last parameter with a name. -/
def last? (name : Char) (ps : List (List Char × List Char)) : Option String :=
  ps.foldl (fun found (n, v) => if n = [name] then some (String.ofList v) else found) none

end FilterQuery.Form

namespace FilterQuery.Request

/-- The request of a query string, which may begin with a question mark. -/
def ofQueryString (s : String) : Request :=
  let body := match s.toList with
    | '?' :: cs => cs
    | cs => cs
  let ps := Form.parameters body
  ⟨Form.last? 'q' ps, Form.last? 's' ps⟩

end FilterQuery.Request
