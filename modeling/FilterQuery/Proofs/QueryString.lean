import FilterQuery.Form
import FilterQuery.Proofs.Utf8RoundTrip

/-!
# Query strings that are joined and written

Two query strings that are joined with an ampersand are read one after the other, and of each parameter
the last value counts; so what is written behind a query string overrides what stands in it. A value
that is written with every byte in the percent form is read back, whatever characters it has.

## Key results

- `Form.decode_encode`: a value in the percent form is read back
- `Form.parameters_append`: the parameters of joined query strings
- `Form.last?_append`: the last value is looked for in the second part first
- `Request.ofQueryString_append`: the request of joined query strings
- `Request.ofQueryString_written`: the request of one written parameter
-/

namespace FilterQuery

namespace Form

/-! ## The percent form -/

/-- An ASCII character is one byte. -/
theorem utf8EncodeChar_of_lt {c : Char} (h : c.toNat < 0x80) :
    String.utf8EncodeChar c = [UInt8.ofNat c.toNat] := by
  have hle : c.val.toNat ≤ 127 := Nat.le_of_lt_succ h
  simp only [String.utf8EncodeChar, hle, if_true]
  rfl

private theorem ofNat_toNat_ofNat {c : Char} (h : c.toNat < 0x80) :
    Char.ofNat (UInt8.ofNat c.toNat).toNat = c := by
  rw [Utf8.toNat_ofNat (by omega), Char.ofNat_toNat]

/-- Digits are ASCII characters. -/
theorem lt_of_hexValue? {c : Char} {n : Nat} (h : Text.hexValue? c = some n) : c.toNat < 0x80 := by
  simp only [Text.hexValue?] at h
  -- The three ranges of digits lie below 0x80, and outside of them there is no value.
  by_cases hdigit : 0x30 ≤ c.toNat ∧ c.toNat ≤ 0x39
  · omega
  by_cases hupper : 0x41 ≤ c.toNat ∧ c.toNat ≤ 0x46
  · omega
  by_cases hlower : 0x61 ≤ c.toNat ∧ c.toNat ≤ 0x66
  · omega
  · simp [hdigit, hupper, hlower] at h

/-- Two digits behind a percent sign are read as the byte they denote, whatever follows them. -/
theorem unescape_percent {high low : Char} {h l : Nat} (hhigh : Text.hexValue? high = some h)
    (hlow : Text.hexValue? low = some l) (bs : List UInt8) :
    unescape (Utf8.encode ['%', high, low] ++ bs) = UInt8.ofNat (16 * h + l) :: unescape bs := by
  have hbytes : Utf8.encode ['%', high, low] =
      [0x25, UInt8.ofNat high.toNat, UInt8.ofNat low.toNat] := by
    simp only [Utf8.encode, List.flatMap_cons, List.flatMap_nil,
      utf8EncodeChar_of_lt (lt_of_hexValue? hhigh), utf8EncodeChar_of_lt (lt_of_hexValue? hlow)]
    rfl
  rw [hbytes]
  simp only [List.cons_append, List.nil_append, unescape,
    ofNat_toNat_ofNat (lt_of_hexValue? hhigh), ofNat_toNat_ofNat (lt_of_hexValue? hlow), hhigh, hlow]

private theorem upperHexDigit_ne_ampersand {n : Nat} (h : n < 16) : Text.upperHexDigit n ≠ '&' := by
  revert n
  decide

/-- A byte in the percent form is read back, whatever follows it. -/
theorem unescape_escapeByte (b : UInt8) (bs : List UInt8) :
    unescape (Utf8.encode (escapeByte b) ++ bs) = b :: unescape bs := by
  have hb : b.toNat < 256 := b.toNat_lt
  have hhigh : b.toNat / 16 < 16 := by omega
  have hlow : b.toNat % 16 < 16 := by omega
  have hvalue : 16 * (b.toNat / 16) + b.toNat % 16 = b.toNat := Nat.div_add_mod _ _
  rw [escapeByte, unescape_percent (Text.hexValue?_upperHexDigit hhigh)
    (Text.hexValue?_upperHexDigit hlow), hvalue, UInt8.ofNat_toNat]

/-- Bytes in the percent form are read back, one after the other. -/
private theorem unescape_flatMap_escapeByte (bs : List UInt8) :
    unescape (Utf8.encode (bs.flatMap escapeByte)) = bs := by
  -- The percent forms are encoded one behind the other, and each is read in front of the rest.
  induction bs with
  | nil => rfl
  | cons b bs ih =>
    have happend : Utf8.encode ((b :: bs).flatMap escapeByte) =
        Utf8.encode (escapeByte b) ++ Utf8.encode (bs.flatMap escapeByte) := by
      rw [List.flatMap_cons, Utf8.encode, List.flatMap_append]
      rfl
    rw [happend, unescape_escapeByte, ih]

/-- A text in the percent form is read back. -/
theorem decode_encode (s : List Char) : decode (encode s) = s := by
  rw [decode, encode, unescape_flatMap_escapeByte, Utf8.decode_encode]

/-- The percent form has no separators. -/
private theorem ampersand_notMem_encode (s : List Char) : '&' ∉ encode s := by
  intro h
  obtain ⟨b, -, hb⟩ := List.mem_flatMap.1 h
  -- Each character is a percent sign or the digit of a half byte.
  have hlt : b.toNat < 256 := b.toNat_lt
  have hhigh := upperHexDigit_ne_ampersand (show b.toNat / 16 < 16 by omega)
  have hlow := upperHexDigit_ne_ampersand (show b.toNat % 16 < 16 by omega)
  simp only [escapeByte, List.mem_cons, List.not_mem_nil, or_false] at hb
  rcases hb with hb | hb | hb
  · exact absurd hb (by decide)
  · exact hhigh hb.symm
  · exact hlow hb.symm

/-! ## Parameters -/

/-- Joined query strings have the parameters of the first and then those of the second. -/
theorem parameters_append (s t : List Char) :
    parameters (s ++ '&' :: t) = parameters s ++ parameters t := by
  simp only [parameters, Text.words_append_cons, List.map_append]

/-- A value that was found before counts as long as no later one is found. -/
theorem foldl_last (name : Char) (ps : List (List Char × List Char)) (found : Option String) :
    ps.foldl (fun found (n, v) => if n = [name] then some (String.ofList v) else found) found =
      (last? name ps).or found := by
  -- The value found so far is generalized: a later one replaces it, and none leaves it.
  induction ps generalizing found with
  | nil => rfl
  | cons p ps ih =>
    obtain ⟨n, v⟩ := p
    have hlast : last? name ((n, v) :: ps) =
        (last? name ps).or (if n = [name] then some (String.ofList v) else none) := ih _
    rw [List.foldl_cons, ih, hlast, Option.or_assoc]
    by_cases hn : n = [name] <;> simp [hn]

/-- The last value with a name is looked for in the second part first. -/
theorem last?_append (name : Char) (ps qs : List (List Char × List Char)) :
    last? name (ps ++ qs) = (last? name qs).or (last? name ps) := by
  have hfold : last? name (ps ++ qs) = qs.foldl _ (last? name ps) := List.foldl_append
  rw [hfold]
  exact foldl_last name qs (last? name ps)

/-- A parameter as it is written: its name, and the value with every byte in the percent form. -/
def written (name : Char) (value : String) : String :=
  String.ofList (name :: '=' :: encode value.toList)

/-- A written parameter is one parameter, with the name and the value it was written for. -/
theorem parameters_written {name : Char} (hname : decode [name] = [name])
    (hseparator : name ≠ '&' ∧ name ≠ '=') (value : String) :
    parameters (written name value).toList = [([name], value.toList)] := by
  have hword : '&' ∉ name :: '=' :: encode value.toList := by
    simp only [List.mem_cons, not_or]
    exact ⟨hseparator.1.symm, by decide, ampersand_notMem_encode _⟩
  -- The first equals sign is the one behind the name.
  have hcut : Text.cut? '=' (name :: '=' :: encode value.toList) =
      some ([name], encode value.toList) :=
    Text.cut?_eq_some_iff.2 ⟨rfl, by simpa using hseparator.2.symm⟩
  rw [written, String.toList_ofList, parameters, Text.words_of_notMem hword (List.cons_ne_nil _ _)]
  simp only [List.map_cons, List.map_nil, parameter, hcut, hname, decode_encode]

end Form

/-! ## Requests -/

namespace Request

/-- A query string without the question mark in front. -/
def body : List Char → List Char
  | '?' :: cs => cs
  | cs => cs

theorem ofQueryString_eq (s : String) :
    ofQueryString s =
      ⟨Form.last? 'q' (Form.parameters (body s.toList)),
        Form.last? 's' (Form.parameters (body s.toList))⟩ := rfl

/-- Without a question mark in front all of a query string is its body. -/
theorem body_of_head?_ne {s : List Char} (h : s.head? ≠ some '?') : body s = s := by
  unfold body
  split
  · simp at h
  · rfl

/-- The question mark belongs to the first of two joined query strings, if that is not empty. -/
theorem body_append (s t : List Char) : body (s ++ '&' :: t) = body s ++ '&' :: t := by
  cases s with
  | nil => rfl
  | cons c cs =>
    -- A question mark in front is taken off on both sides, any other character on neither.
    by_cases hc : c = '?'
    · subst hc
      rfl
    · have hhead : (c :: cs).head? ≠ some '?' := by simpa using hc
      have hhead' : (c :: cs ++ '&' :: t).head? ≠ some '?' := by simpa using hc
      rw [body_of_head?_ne hhead, body_of_head?_ne hhead']

/-- Of joined query strings the second counts where it has a parameter. -/
theorem ofQueryString_append (a b : String) (h : b.toList.head? ≠ some '?') :
    ofQueryString (a ++ "&" ++ b) =
      ⟨(ofQueryString b).filter.or (ofQueryString a).filter,
        (ofQueryString b).sort.or (ofQueryString a).sort⟩ := by
  have hchars : (a ++ "&" ++ b).toList = a.toList ++ '&' :: b.toList := by simp
  rw [ofQueryString_eq, hchars, body_append, Form.parameters_append, Form.last?_append,
    Form.last?_append, ofQueryString_eq, ofQueryString_eq, body_of_head?_ne h]

/-- A written parameter does not begin with a question mark. -/
theorem head?_written {name : Char} (h : name ≠ '?') (value : String) :
    (Form.written name value).toList.head? ≠ some '?' := by
  rw [Form.written, String.toList_ofList, List.head?_cons]
  exact fun heq => h (Option.some.inj heq)

/-- The two parameters of a request, each written alone. -/
theorem ofQueryString_written (value : String) :
    ofQueryString (Form.written 'q' value) = ⟨some value, none⟩ ∧
      ofQueryString (Form.written 's' value) = ⟨none, some value⟩ := by
  have hq : Form.parameters (Form.written 'q' value).toList = [(['q'], value.toList)] :=
    Form.parameters_written (by decide) (by decide) value
  have hs : Form.parameters (Form.written 's' value).toList = [(['s'], value.toList)] :=
    Form.parameters_written (by decide) (by decide) value
  rw [ofQueryString_eq, ofQueryString_eq, body_of_head?_ne (head?_written (by decide) value),
    body_of_head?_ne (head?_written (by decide) value), hq, hs]
  simp [Form.last?]

end Request

end FilterQuery
