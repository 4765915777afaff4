import FilterQuery.Proofs.QueryString

/-!
# Query strings that spell a request

A query string can spell one request in many ways: the digits of a byte have two cases, the names `q`
and `s` may be escaped too, the two parameters come in either order, and others stand around them. The
relation `Form.Spells` tells from the pieces between ampersands which request they spell, and every
such query string is read as this request, with a question mark in front or without. An absent
parameter and one with an empty value are two requests.

## Key results

- `Form.exists_spells`: every request can be spelled
- `Form.decode_of_escapes`: an escaped value is read back, with digits of either case
- `Form.parameters_intercalate`: the parameters of pieces that are joined
- `Form.last?_of_spells`: the last values of pieces that spell a request
- `Request.ofQueryString_composes_and_reads_back`: joined query strings, and spelled ones
-/

namespace FilterQuery

namespace Form

/-! ## Spelling a request -/

/-- The characters are the bytes in the percent form, with digits of either case. -/
inductive Escapes : List UInt8 → List Char → Prop where
  | nil : Escapes [] []
  | byte {high low : Char} {h l : Nat} {bs : List UInt8} {cs : List Char}
    (hhigh : Text.hexValue? high = some h) (hlow : Text.hexValue? low = some l)
    (hrest : Escapes bs cs) :
    Escapes (UInt8.ofNat (16 * h + l) :: bs) ('%' :: high :: low :: cs)

/-- The piece is the parameter of a name, itself plain or escaped, with every byte of the value in the
    percent form. An empty value needs no `=`. -/
inductive Carries (name : Char) : String → String → Prop where
  | intro {value raw escaped : String} (hampersand : '&' ∉ raw.toList) (hequals : '=' ∉ raw.toList)
    (hname : decode raw.toList = [name])
    (hvalue : Escapes (Utf8.encode value.toList) escaped.toList) :
    Carries name value (raw ++ "=" ++ escaped)
  | bare {raw : String} (hampersand : '&' ∉ raw.toList) (hequals : '=' ∉ raw.toList)
    (hname : decode raw.toList = [name]) : Carries name "" raw

/-- The piece has no part in a request: its name, up to the first `=`, is neither `q` nor `s`. An empty
    piece is one of these. -/
structure Unrelated (piece : String) : Prop where
  ampersand : '&' ∉ piece.toList
  mark : piece.toList.head? ≠ some '?'
  name : decode (piece.toList.takeWhile (· ≠ '=')) ∉ [['q'], ['s']]

/-- The pieces spell the request of a filter string and a sort string: each that is there stands in one
    piece, and the others are unrelated. -/
inductive Spells : Option String → Option String → List String → Prop where
  | nil : Spells none none []
  | filter {filter piece : String} {sort : Option String} {pieces : List String}
    (h : Carries 'q' filter piece) (hrest : Spells none sort pieces) :
    Spells (some filter) sort (piece :: pieces)
  | sort {sort piece : String} {filter : Option String} {pieces : List String}
    (h : Carries 's' sort piece) (hrest : Spells filter none pieces) :
    Spells filter (some sort) (piece :: pieces)
  | unrelated {piece : String} {filter sort : Option String} {pieces : List String}
    (h : Unrelated piece) (hrest : Spells filter sort pieces) :
    Spells filter sort (piece :: pieces)

/-! ## Escaped values -/

/-- Escaped bytes are read back, one after the other. -/
private theorem unescape_of_escapes {bs : List UInt8} {cs : List Char} (h : Escapes bs cs) :
    unescape (Utf8.encode cs) = bs := by
  induction h with
  | nil => rfl
  | @byte high low _ _ _ cs hhigh hlow _ ih =>
    have hsplit : Utf8.encode ('%' :: high :: low :: cs) =
        Utf8.encode ['%', high, low] ++ Utf8.encode cs := by
      rw [Utf8.encode, Utf8.encode, Utf8.encode, ← List.flatMap_append]
      rfl
    rw [hsplit, unescape_percent hhigh hlow, ih]

/-- An escaped value is read back. -/
theorem decode_of_escapes {value : String} {cs : List Char}
    (h : Escapes (Utf8.encode value.toList) cs) : decode cs = value.toList := by
  rw [decode, unescape_of_escapes h, Utf8.decode_encode]

/-- Escaped bytes hold no separator. -/
private theorem ampersand_notMem_of_escapes {bs : List UInt8} {cs : List Char} (h : Escapes bs cs) :
    '&' ∉ cs := by
  have hampersand : Text.hexValue? '&' = none := by decide
  induction h with
  | nil => exact List.not_mem_nil
  | @byte high low _ _ _ _ hhigh hlow _ ih =>
    -- An ampersand has no value as a digit.
    have hne : ∀ {c : Char} {n : Nat}, Text.hexValue? c = some n → '&' ≠ c := by
      rintro c n hc rfl
      exact nomatch hampersand.symm.trans hc
    simp only [List.mem_cons, not_or]
    exact ⟨by decide, hne hhigh, hne hlow, ih⟩

/-- Bytes with upper digits are escaped. -/
private theorem escapes_flatMap_escapeByte (bs : List UInt8) : Escapes bs (bs.flatMap escapeByte) := by
  induction bs with
  | nil => exact .nil
  | cons b bs ih =>
    have hb : b.toNat < 256 := b.toNat_lt
    have hhigh := Text.hexValue?_upperHexDigit (show b.toNat / 16 < 16 by omega)
    have hlow := Text.hexValue?_upperHexDigit (show b.toNat % 16 < 16 by omega)
    -- The two half bytes make up the byte again.
    have hvalue : UInt8.ofNat (16 * (b.toNat / 16) + b.toNat % 16) = b := by
      rw [Nat.div_add_mod, UInt8.ofNat_toNat]
    have hbyte := Escapes.byte hhigh hlow ih
    rwa [hvalue] at hbyte

/-- A written parameter carries its value. -/
private theorem carries_written {name : Char} (hname : decode [name] = [name])
    (hseparator : name ≠ '&' ∧ name ≠ '=') (value : String) :
    Carries name value (written name value) := by
  have hpiece : written name value =
      String.singleton name ++ "=" ++ String.ofList (encode value.toList) := by
    rw [← String.toList_inj]
    simp [written]
  rw [hpiece]
  refine .intro ?_ ?_ ?_ ?_
  · simpa using hseparator.1.symm
  · simpa using hseparator.2.symm
  · simpa using hname
  · rw [String.toList_ofList]
    exact escapes_flatMap_escapeByte _

/-- Every request can be spelled. -/
theorem exists_spells (filter sort : Option String) : ∃ pieces, Spells filter sort pieces := by
  have hq : ∀ value, Carries 'q' value (written 'q' value) := carries_written (by decide) (by decide)
  have hs : ∀ value, Carries 's' value (written 's' value) := carries_written (by decide) (by decide)
  cases filter <;> cases sort
  case none.none => exact ⟨_, .nil⟩
  case none.some sort => exact ⟨_, .sort (hs sort) .nil⟩
  case some.none filter => exact ⟨_, .filter (hq filter) .nil⟩
  case some.some filter sort => exact ⟨_, .filter (hq filter) (.sort (hs sort) .nil)⟩

/-! ## The parameter of a piece -/

/-- What stands in front of the first `=`. -/
private theorem takeWhile_append_of_notMem {name : List Char} (h : '=' ∉ name) (cs : List Char) :
    (name ++ cs).takeWhile (· ≠ '=') = name ++ cs.takeWhile (· ≠ '=') := by
  refine List.takeWhile_append_of_pos fun c hc => decide_eq_true ?_
  rintro rfl
  exact h hc

/-- The name of a piece is what stands in front of its first equals sign, or all of it. -/
private theorem fst_parameter (piece : List Char) :
    (parameter piece).1 = decode (piece.takeWhile (· ≠ '=')) := by
  rw [parameter]
  -- Without an equals sign the name reaches to the end of the piece.
  cases hcut : Text.cut? '=' piece with
  | none =>
    have hname := takeWhile_append_of_notMem (Text.cut?_eq_none_iff.1 hcut) []
    rw [List.takeWhile_nil, List.append_nil] at hname
    rw [hname]
  | some cut =>
    obtain ⟨name, value⟩ := cut
    obtain ⟨rfl, hmem⟩ := Text.cut?_eq_some_iff.1 hcut
    have hequals : ('=' :: value).takeWhile (· ≠ '=') = [] := by simp
    rw [takeWhile_append_of_notMem hmem, hequals, List.append_nil]

/-- A piece that carries a value is read as this parameter. -/
private theorem parameter_of_carries {name : Char} {value piece : String}
    (h : Carries name value piece) :
    parameter piece.toList = ([name], value.toList) := by
  cases h with
  | @intro _ raw escaped _ hequals hname hvalue =>
    have hchars : (raw ++ "=" ++ escaped).toList = raw.toList ++ '=' :: escaped.toList := by simp
    have hcut : Text.cut? '=' (raw.toList ++ '=' :: escaped.toList) =
        some (raw.toList, escaped.toList) := Text.cut?_eq_some_iff.2 ⟨rfl, hequals⟩
    rw [hchars, parameter, hcut]
    simp only [hname, decode_of_escapes hvalue]
  | bare _ hequals hname =>
    rw [parameter, Text.cut?_eq_none_iff.2 hequals]
    simp only [hname, String.toList_empty]

/-- A piece that carries a value is one piece. -/
private theorem ampersand_notMem_of_carries {name : Char} {value piece : String}
    (h : Carries name value piece) : '&' ∉ piece.toList := by
  cases h with
  | intro hampersand _ _ hvalue =>
    have hescaped := ampersand_notMem_of_escapes hvalue
    simp [hampersand, hescaped]
  | bare hampersand => exact hampersand

/-- A question mark in front stays in front. -/
private theorem decode_cons_mark (cs : List Char) : decode ('?' :: cs) = '?' :: decode cs := by
  have hencode : Utf8.encode ('?' :: cs) = 0x3F :: Utf8.encode cs := rfl
  have hunescape : ∀ bs : List UInt8, unescape (0x3F :: bs) = 0x3F :: unescape bs := by
    intro bs
    simp [unescape]
  rw [decode, hencode, hunescape]
  exact Utf8.decodeFrom_utf8EncodeChar '?' _

/-- What is read as a name other than the question mark is not empty and has none in front. -/
private theorem exists_cons_of_decode {name : Char} (hmark : name ≠ '?') {raw : List Char}
    (h : decode raw = [name]) : ∃ c cs, raw = c :: cs ∧ c ≠ '?' := by
  cases raw with
  | nil => exact nomatch h
  | cons c cs =>
    refine ⟨c, cs, rfl, ?_⟩
    rintro rfl
    rw [decode_cons_mark, List.cons.injEq] at h
    exact hmark h.1.symm

/-- A piece that carries a value begins with its name, and not with a question mark. -/
private theorem exists_cons_of_carries {name : Char} (hmark : name ≠ '?') {value piece : String}
    (h : Carries name value piece) : ∃ c cs, piece.toList = c :: cs ∧ c ≠ '?' := by
  cases h with
  | intro _ _ hname =>
    obtain ⟨c, cs, hraw, hc⟩ := exists_cons_of_decode hmark hname
    rw [String.toList_append, String.toList_append, hraw]
    exact ⟨c, _, rfl, hc⟩
  | bare _ _ hname => exact exists_cons_of_decode hmark hname

private theorem toList_ne_nil_of_carries {name : Char} (hmark : name ≠ '?') {value piece : String}
    (h : Carries name value piece) : piece.toList ≠ [] := by
  obtain ⟨c, cs, hpiece, -⟩ := exists_cons_of_carries hmark h
  rw [hpiece]
  exact List.cons_ne_nil c cs

/-! ## Pieces that are joined -/

/-- The parameters of pieces. An empty piece has none. -/
def parametersOf (pieces : List String) : List (List Char × List Char) :=
  ((pieces.map String.toList).filter (· ≠ [])).map parameter

/-- A piece with characters is one parameter more. -/
private theorem parametersOf_cons {piece : String} (h : piece.toList ≠ []) (pieces : List String) :
    parametersOf (piece :: pieces) = parameter piece.toList :: parametersOf pieces := by
  simp [parametersOf, h]

private theorem parametersOf_cons_of_eq_nil {piece : String} (h : piece.toList = [])
    (pieces : List String) :
    parametersOf (piece :: pieces) = parametersOf pieces := by
  simp [parametersOf, h]

/-- Pieces that are joined with ampersands have the parameters of each piece. -/
theorem parameters_intercalate {pieces : List String} (h : ∀ p ∈ pieces.map String.toList, '&' ∉ p) :
    parameters (List.intercalate ['&'] (pieces.map String.toList)) = parametersOf pieces := by
  rw [parameters, Text.words, parametersOf]
  -- No pieces at all are joined to the empty text, which has one empty piece.
  by_cases hnil : pieces.map String.toList = []
  · rw [hnil]
    rfl
  · rw [Text.pieces_intercalate hnil h]

/-- No question mark stands in front of joined pieces, if none stands in front of a piece. -/
private theorem head?_intercalate {pieces : List (List Char)} (h : ∀ p ∈ pieces, p.head? ≠ some '?') :
    (List.intercalate ['&'] pieces).head? ≠ some '?' := by
  cases pieces with
  | nil => simp
  | cons p ps =>
    have hp : p.head? ≠ some '?' := h p (List.mem_cons_self ..)
    cases ps with
    | nil => rwa [List.intercalate_singleton]
    | cons q qs =>
      rw [List.intercalate_cons_cons]
      -- Behind an empty piece there is an ampersand in front.
      cases p with
      | nil => simp
      | cons c cs => simpa using hp

private theorem last?_cons (name : Char) (p : List Char × List Char)
    (ps : List (List Char × List Char)) :
    last? name (p :: ps) =
      (last? name ps).or (if p.1 = [name] then some (String.ofList p.2) else none) :=
  foldl_last name ps _

/-- The piece can be told from those around it, and does not begin with a question mark. -/
def Separable (piece : List Char) : Prop :=
  '&' ∉ piece ∧ piece.head? ≠ some '?'

/-- A piece that carries a value can be told from its neighbours. -/
private theorem separable_of_carries {name : Char} (hmark : name ≠ '?') {value piece : String}
    (h : Carries name value piece) : Separable piece.toList := by
  obtain ⟨c, cs, hpiece, hc⟩ := exists_cons_of_carries hmark h
  refine ⟨ampersand_notMem_of_carries h, ?_⟩
  rw [hpiece, List.head?_cons, ne_eq, Option.some.injEq]
  exact hc

/-- All pieces of a request can be told from their neighbours. -/
private theorem forall_separable_of_spells {filter sort : Option String} {pieces : List String}
    (h : Spells filter sort pieces) : ∀ p ∈ pieces.map String.toList, Separable p := by
  -- The piece in front carries a value, or is unrelated, which says so itself.
  induction h with
  | nil => simp
  | filter h _ ih => exact List.forall_mem_cons.2 ⟨separable_of_carries (by decide) h, ih⟩
  | sort h _ ih => exact List.forall_mem_cons.2 ⟨separable_of_carries (by decide) h, ih⟩
  | unrelated h _ ih => exact List.forall_mem_cons.2 ⟨⟨h.ampersand, h.mark⟩, ih⟩

/-- The last values of the pieces of a request are its two strings. -/
theorem last?_of_spells {filter sort : Option String} {pieces : List String}
    (h : Spells filter sort pieces) :
    last? 'q' (parametersOf pieces) = filter ∧ last? 's' (parametersOf pieces) = sort := by
  -- The pieces behind have the values of the request that is left, which has none for the name of
  -- the piece in front.
  induction h with
  | nil => exact ⟨rfl, rfl⟩
  | filter h _ ih =>
    rw [parametersOf_cons (toList_ne_nil_of_carries (by decide) h), parameter_of_carries h, last?_cons,
      last?_cons, ih.1, ih.2]
    simp
  | sort h _ ih =>
    rw [parametersOf_cons (toList_ne_nil_of_carries (by decide) h), parameter_of_carries h, last?_cons,
      last?_cons, ih.1, ih.2]
    simp
  | @unrelated piece _ _ _ h _ ih =>
    by_cases hnil : piece.toList = []
    · rwa [parametersOf_cons_of_eq_nil hnil]
    · have hname := h.name
      rw [← fst_parameter] at hname
      simp only [List.mem_cons, List.not_mem_nil, or_false, not_or] at hname
      rw [parametersOf_cons hnil, last?_cons, last?_cons, if_neg hname.1, if_neg hname.2,
        Option.or_none, Option.or_none]
      exact ih

end Form

/-! ## Requests -/

namespace Request

open Form

/-- A question mark in front is not part of the parameters. -/
private theorem body_mark_append {mark : String} (hmark : mark ∈ ["", "?"]) {s : List Char}
    (h : s.head? ≠ some '?') : body (mark.toList ++ s) = s := by
  simp only [List.mem_cons, List.not_mem_nil, or_false] at hmark
  rcases hmark with rfl | rfl
  · exact body_of_head?_ne h
  · rfl

/-- Pieces that spell a request are read as it. -/
theorem ofQueryString_of_spells {filter sort : Option String} {pieces : List String}
    (h : Spells filter sort pieces) {mark : String} (hmark : mark ∈ ["", "?"]) :
    ofQueryString (mark ++ "&".intercalate pieces) = ⟨filter, sort⟩ := by
  have hpieces := forall_separable_of_spells h
  have hchars : (mark ++ "&".intercalate pieces).toList =
      mark.toList ++ List.intercalate ['&'] (pieces.map String.toList) := by
    rw [String.toList_append, String.toList_intercalate]
    rfl
  -- Without a question mark in front of the pieces, the one that may be there is taken off.
  have hhead := head?_intercalate fun p hp => (hpieces p hp).2
  obtain ⟨hfilter, hsort⟩ := last?_of_spells h
  rw [ofQueryString_eq, hchars, body_mark_append hmark hhead,
    parameters_intercalate fun p hp => (hpieces p hp).1, hfilter, hsort]

/-- Of joined query strings the second counts where it has a parameter; and a query string that spells
    a request is read as this request, with a question mark in front or without. Every request can be
    spelled. -/
theorem ofQueryString_composes_and_reads_back :
    (∀ a b : String, b.toList.head? ≠ some '?' →
      ofQueryString (a ++ "&" ++ b) =
        ⟨(ofQueryString b).filter.or (ofQueryString a).filter,
          (ofQueryString b).sort.or (ofQueryString a).sort⟩) ∧
    (∀ (filter sort : Option String) (pieces : List String), Spells filter sort pieces →
      ∀ mark ∈ ["", "?"], ofQueryString (mark ++ "&".intercalate pieces) = ⟨filter, sort⟩) ∧
    ∀ filter sort : Option String, ∃ pieces, Spells filter sort pieces :=
  ⟨ofQueryString_append, fun _ _ _ h _ hmark => ofQueryString_of_spells h hmark, exists_spells⟩

/-- The statement at a query string with an escaped name, digits of both cases, an empty piece and an
    empty sort string. -/
theorem ofQueryString_composes_and_reads_back_escaped_name :
    Spells (some "é") (some "") ["page=2", "s=", "", "%71=%c3%A9"] ∧
      ofQueryString "?page=2&s=&&%71=%c3%A9" = ⟨some "é", some ""⟩ ∧
      ofQueryString "?page=2&s=&&%71=%c3%A9&q=" = ⟨some "", some ""⟩ := by
  obtain ⟨hjoined, hspelled, -⟩ := ofQueryString_composes_and_reads_back
  have hfilter : Carries 'q' "é" "%71=%c3%A9" :=
    @Carries.intro 'q' "é" "%71" "%c3%A9" (by decide) (by decide) (by decide)
      (.byte (h := 12) (l := 3) rfl rfl (.byte (h := 10) (l := 9) rfl rfl .nil))
  have hsort : Carries 's' "" "s=" :=
    @Carries.intro 's' "" "s" "" (by decide) (by decide) (by decide) .nil
  have hspells : Spells (some "é") (some "") ["page=2", "s=", "", "%71=%c3%A9"] :=
    .unrelated ⟨by decide, by decide, by decide⟩ <| .sort hsort <|
      .unrelated ⟨by decide, by decide, by decide⟩ <| .filter hfilter .nil
  have hread : ofQueryString "?page=2&s=&&%71=%c3%A9" = ⟨some "é", some ""⟩ :=
    hspelled _ _ _ hspells "?" (by decide)
  have hempty : Carries 'q' "" "q=" :=
    @Carries.intro 'q' "" "q" "" (by decide) (by decide) (by decide) .nil
  have hlater : ofQueryString "q=" = ⟨some "", none⟩ :=
    hspelled _ _ _ (.filter hempty .nil) "" (by decide)
  refine ⟨hspells, hread, ?_⟩
  -- A further parameter, joined behind, overrides the filter string and leaves the sort string.
  have hboth := hjoined "?page=2&s=&&%71=%c3%A9" "q=" (by decide)
  rw [hread, hlater] at hboth
  exact hboth

end Request

end FilterQuery
