import FilterQuery.Proofs.DocumentNames
import FilterQuery.Proofs.TokenReading

/-!
# Written documents are read back

A document is written in one line or laid out over lines. The two texts differ in blanks between tokens
only: both are spelled by the tokens of the document, `Json.tokens`, as no line break falls inside a
string. From these tokens the reader builds the document again, if it is allowed to open as many arrays
and objects inside one another as the document has, `Json.height`.

This file is about documents without numbers, booleans and nulls, `Json.Textual`.

## Key results

- `Textual.spelledBy_compactChars`, `Textual.spelledBy_prettyChars`: both texts of a document are
  spelled by its tokens
- `Expecting.readsBack`: the tokens of a value lead to what is expected behind it
- `parseWithin?_of_spelledBy`: a text that is spelled by the tokens of a document is read as the document
-/

namespace FilterQuery.Json

/-! ## The tokens of a document -/

mutual

/-- The tokens of a document. -/
def tokens : Json → List Token
  | null => [.null]
  | bool b => [.bool b]
  | number n => [.number n]
  | string s => [.string s]
  | array items => .openArray :: itemTokens items ++ [.closeArray]
  | object members => .openObject :: memberTokens members ++ [.closeObject]

/-- The tokens of the items of an array. -/
def itemTokens : List Json → List Token
  | [] => []
  | [v] => v.tokens
  | v :: w :: vs => v.tokens ++ .comma :: itemTokens (w :: vs)

/-- The tokens of the members of an object. -/
def memberTokens : List (String × Json) → List Token
  | [] => []
  | [(k, v)] => .string k :: .colon :: v.tokens
  | (k, v) :: m :: ms => .string k :: .colon :: v.tokens ++ .comma :: memberTokens (m :: ms)

end

mutual

/-- How many arrays and objects lie inside one another. -/
def height : Json → Nat
  | null | bool _ | number _ | string _ => 0
  | array items => itemsHeight items + 1
  | object members => membersHeight members + 1

/-- The height of the highest item of an array. -/
def itemsHeight : List Json → Nat
  | [] => 0
  | v :: vs => max v.height (itemsHeight vs)

/-- The height of the highest member of an object. -/
def membersHeight : List (String × Json) → Nat
  | [] => 0
  | (_, v) :: ms => max v.height (membersHeight ms)

end

/-! ## Both texts have these tokens -/

/-- The document is made of texts, arrays and objects, and names members once. -/
inductive Textual : Json → Prop where
  | string (s : String) : Textual (.string s)
  | array {items : List Json} (h : ∀ v ∈ items, Textual v) : Textual (.array items)
  | object {members : List (String × Json)} (hnames : (members.map Prod.fst).Nodup)
    (h : ∀ m ∈ members, Textual m.2) : Textual (.object members)

/-- Documents of texts name members once, like all documents that are read. -/
theorem Textual.namesOnce {v : Json} (h : v.Textual) : v.NamesOnce := by
  induction h with
  | string s => exact .string s
  | array _ ih => exact .array ih
  | object hnames _ ih => exact .object hnames ih

section

open Token

variable {items : List Json} {members : List (String × Json)} {level : Nat}

/-- A line break and the indentation behind it spell no token. -/
private theorem spelledBy_lineBreak (level : Nat) : SpelledBy [] (lineBreak level) := by
  have hblanks : ∀ n, SpelledBy [] (List.replicate n ' ') := by
    intro n
    induction n with
    | zero => exact .nil
    | succ n ih => exact .blank rfl ih
  exact .blank rfl (hblanks (2 * level))

/-- Lists are written member by member, with a separator between two of them. -/
structure Separated {α β : Type} (separator : β) (member : α → List β) (all : List α → List β) :
    Prop where
  nil : all [] = []
  one : ∀ x, all [x] = member x
  more : ∀ x y xs, all (x :: y :: xs) = member x ++ separator :: all (y :: xs)

/-- A list that is spelled member by member is spelled as a whole. -/
private theorem spelledBy_of_separated {α : Type} {ts : α → List Token} {cs : α → List Char}
    {allTokens : List α → List Token} {allChars : List α → List Char}
    (ht : Separated .comma ts allTokens) (hc : Separated ',' cs allChars) {xs : List α}
    (h : ∀ x ∈ xs, SpelledBy (ts x) (cs x)) : SpelledBy (allTokens xs) (allChars xs) := by
  -- Tokens and characters follow one pattern, so a comma is met in both at the same place.
  induction xs with
  | nil =>
    rw [ht.nil, hc.nil]
    exact .nil
  | cons x xs ih =>
    rw [List.forall_mem_cons] at h
    obtain ⟨hx, hxs⟩ := h
    cases xs with
    | nil => rwa [ht.one, hc.one]
    | cons y ys =>
      rw [ht.more, hc.more]
      exact hx.append (.cons rfl (ih hxs))

/-- The tokens of items have commas between them. -/
private theorem separated_itemTokens : Separated .comma tokens itemTokens :=
  ⟨rfl, fun _ => rfl, fun _ _ _ => rfl⟩

private theorem separated_memberTokens :
    Separated .comma (fun m : String × Json => .string m.1 :: .colon :: m.2.tokens) memberTokens :=
  ⟨rfl, fun _ => rfl, fun _ _ _ => rfl⟩

/-- Items in one line are spelled by their tokens. -/
private theorem spelledBy_compactItems (h : ∀ v ∈ items, SpelledBy v.tokens v.compactChars) :
    SpelledBy (itemTokens items) (compactItems items) :=
  spelledBy_of_separated separated_itemTokens ⟨rfl, fun _ => rfl, fun _ _ _ => rfl⟩ h

/-- Members in one line are spelled by their names, colons and values. -/
private theorem spelledBy_compactMembers (h : ∀ m ∈ members, SpelledBy m.2.tokens m.2.compactChars) :
    SpelledBy (memberTokens members) (compactMembers members) := by
  have hmember : ∀ m ∈ members, SpelledBy (.string m.1 :: .colon :: m.2.tokens)
      (stringChars m.1 ++ ':' :: m.2.compactChars) :=
    fun m hm => (SpelledBy.string m.1).append (.cons rfl (h m hm))
  exact spelledBy_of_separated separated_memberTokens ⟨rfl, fun _ => rfl, fun _ _ _ => rfl⟩ hmember

/-- Items on lines of their own are spelled by the same tokens. -/
private theorem spelledBy_prettyItems (h : ∀ v ∈ items, SpelledBy v.tokens (v.prettyChars level)) :
    SpelledBy (itemTokens items) (prettyItems level items) := by
  have hitem : ∀ v ∈ items, SpelledBy v.tokens (lineBreak level ++ v.prettyChars level) :=
    fun v hv => (spelledBy_lineBreak level).append (h v hv)
  exact spelledBy_of_separated separated_itemTokens ⟨rfl, fun _ => rfl, fun _ _ _ => rfl⟩ hitem

private theorem spelledBy_prettyMembers
    (h : ∀ m ∈ members, SpelledBy m.2.tokens (m.2.prettyChars level)) :
    SpelledBy (memberTokens members) (prettyMembers level members) := by
  have hmember : ∀ m ∈ members, SpelledBy (.string m.1 :: .colon :: m.2.tokens)
      (lineBreak level ++ stringChars m.1 ++ ':' :: ' ' :: m.2.prettyChars level) :=
    fun m hm => ((spelledBy_lineBreak level).append (.string m.1)).append
      (.cons rfl (.blank rfl (h m hm)))
  exact spelledBy_of_separated separated_memberTokens ⟨rfl, fun _ => rfl, fun _ _ _ => rfl⟩ hmember

/-- A document in one line is spelled by its tokens. -/
theorem Textual.spelledBy_compactChars {v : Json} (h : v.Textual) :
    SpelledBy v.tokens v.compactChars := by
  have hclose : ∀ {t : Token} {c : Char}, start c = some ([t], .between) → SpelledBy [t] [c] :=
    fun hc => .cons hc .nil
  -- An opening bracket, the contents by induction, and the closing bracket.
  induction h with
  | string s => exact .string s
  | array _ ih => exact (SpelledBy.cons rfl (spelledBy_compactItems ih)).append (hclose rfl)
  | object _ _ ih => exact (SpelledBy.cons rfl (spelledBy_compactMembers ih)).append (hclose rfl)

/-- A document that is laid out over lines is spelled by the same tokens. -/
theorem Textual.spelledBy_prettyChars {v : Json} (h : v.Textual) (level : Nat) :
    SpelledBy v.tokens (v.prettyChars level) := by
  -- A closing bracket stands on a line of its own, unless there is nothing to close.
  have hclose : ∀ {level : Nat} {t : Token} {c : Char}, start c = some ([t], .between) →
      SpelledBy [t] (lineBreak level ++ [c]) :=
    fun hc => (spelledBy_lineBreak _).append (.cons hc .nil)
  induction h generalizing level with
  | string s => exact .string s
  | @array items _ ih =>
    cases items with
    | nil => exact .cons rfl (.cons rfl .nil)
    | cons v vs =>
      have hitems := spelledBy_prettyItems fun w hw => ih w hw (level + 1)
      rw [prettyChars, List.append_assoc]
      exact (SpelledBy.cons rfl hitems).append (hclose rfl)
  | @object members _ _ ih =>
    cases members with
    | nil => exact .cons rfl (.cons rfl .nil)
    | cons m ms =>
      have hmembers := spelledBy_prettyMembers fun n hn => ih n hn (level + 1)
      rw [prettyChars, List.append_assoc]
      exact (SpelledBy.cons rfl hmembers).append (hclose rfl)

end

/-! ## The reader of tokens -/

namespace Expecting

/-- The tokens lead from one state of the reader to another. -/
def Leads (depth : Nat) (x : Expecting) (ts : List Token) (y : Expecting) : Prop :=
  ts.foldlM (step depth) x = some y

variable {depth : Nat} {x y z : Expecting} {below : List Frame}

/-- Tokens that lead on from where others have led go on with them. -/
theorem Leads.append {ts us : List Token} (h : Leads depth x ts y) (h' : Leads depth y us z) :
    Leads depth x (ts ++ us) z := by
  rw [Leads, List.foldlM_append, h]
  exact h'

theorem Leads.cons {t : Token} {ts : List Token} (ht : step depth x t = some y)
    (h : Leads depth y ts z) : Leads depth x (t :: ts) z := by
  rw [Leads, List.foldlM_cons, ht]
  exact h

/-- The first item of an array is read like any other. -/
theorem Leads.firstItem {ts : List Token} (hts : ∃ t ∈ ts.head?, t ≠ .closeArray)
    (h : Leads depth (.value (.array [] :: below)) ts y) : Leads depth (.firstItem below) ts y := by
  obtain ⟨t, hhead, hne⟩ := hts
  obtain ⟨us, rfl⟩ := List.head?_eq_some_iff.1 hhead
  -- The two states differ for the end of the array only.
  have hstep : step depth (.firstItem below) t = step depth (.value (.array [] :: below)) t := by
    cases t with
    | closeArray => exact absurd rfl hne
    | _ => rfl
  rw [Leads, List.foldlM_cons, hstep, ← List.foldlM_cons]
  exact h

end Expecting

/-- The tokens of a value do not begin with the end of an array. -/
private theorem exists_mem_head?_tokens (v : Json) : ∃ t ∈ v.tokens.head?, t ≠ .closeArray := by
  cases v with
  | null => exact ⟨.null, rfl, nofun⟩
  | bool b => exact ⟨.bool b, rfl, nofun⟩
  | number n => exact ⟨.number n, rfl, nofun⟩
  | string s => exact ⟨.string s, rfl, nofun⟩
  | array items => exact ⟨.openArray, rfl, nofun⟩
  | object members => exact ⟨.openObject, rfl, nofun⟩

private theorem exists_mem_head?_itemTokens (v : Json) (vs : List Json) :
    ∃ t ∈ (itemTokens (v :: vs)).head?, t ≠ .closeArray := by
  obtain ⟨t, hhead, hne⟩ := v.exists_mem_head?_tokens
  -- The first item begins the row, whether or not others follow.
  obtain ⟨us, hus⟩ := List.head?_eq_some_iff.1 hhead
  refine ⟨t, ?_, hne⟩
  cases vs with
  | nil => exact hhead
  | cons w ws =>
    rw [itemTokens, hus]
    rfl

namespace Expecting

variable {depth : Nat}

/-- Wherever the depth leaves room for the value, its tokens are read as the value. -/
def ReadsBack (depth : Nat) (v : Json) : Prop :=
  ∀ below : List Frame, below.length + v.height ≤ depth →
    Leads depth (.value below) v.tokens (afterValue v below)

/-- An item joins those that were read before it. -/
theorem ReadsBack.item {v : Json} (h : ReadsBack depth v) (acc : List Json) (below : List Frame)
    (hdepth : below.length + 1 + v.height ≤ depth) :
    Leads depth (.value (.array acc :: below)) v.tokens (.moreItems (v :: acc) below) :=
  h (.array acc :: below) hdepth

/-- A name that comes later is new. -/
private theorem notMem_of_nodup_append {acc ms : List (String × Json)} {m : String × Json}
    (h : ((acc ++ m :: ms).map Prod.fst).Nodup) : m.1 ∉ acc.map Prod.fst := by
  rw [List.map_append, List.map_cons] at h
  exact fun hm => (List.nodup_append.1 h).2.2 m.1 hm m.1 (List.mem_cons_self ..) rfl

/-- A member with a new name goes behind those that were read before it. -/
theorem ReadsBack.member {k : String} {v : Json} (h : ReadsBack depth v) {acc : List (String × Json)}
    (below : List Frame) (hnew : k ∉ acc.map Prod.fst) (hdepth : below.length + 1 + v.height ≤ depth) :
    Leads depth (.name acc below) (.string k :: .colon :: v.tokens)
      (.moreMembers (acc ++ [(k, v)]) below) := by
  -- A new name is put at the end.
  rw [← Pairs.put_of_notMem hnew v]
  exact .cons rfl (.cons rfl (h (.object acc k :: below) hdepth))

/-- Items are read one by one and wait in reverse for the end of the array. -/
private theorem leads_items {v : Json} {vs : List Json} (h : ∀ w ∈ v :: vs, ReadsBack depth w)
    (acc : List Json) (below : List Frame) (hdepth : below.length + 1 + itemsHeight (v :: vs) ≤ depth) :
    Leads depth (.value (.array acc :: below)) (itemTokens (v :: vs))
      (.moreItems ((v :: vs).reverse ++ acc) below) := by
  -- The items read so far are generalized, and so is the first of those to come.
  induction vs generalizing v acc with
  | nil =>
    rw [itemsHeight, itemsHeight] at hdepth
    exact (h v (List.mem_singleton_self v)).item acc below (by omega)
  | cons w ws ih =>
    rw [itemsHeight] at hdepth
    have hfirst := (h v (List.mem_cons_self ..)).item acc below (by omega)
    have hmore := ih (fun u hu => h u (List.mem_cons_of_mem v hu)) (v :: acc) (by omega)
    rw [itemTokens, List.reverse_cons, List.append_assoc]
    exact hfirst.append (.cons rfl hmore)

/-- Members are read one by one. -/
private theorem leads_members {m : String × Json} {ms : List (String × Json)}
    (h : ∀ n ∈ m :: ms, ReadsBack depth n.2) (acc : List (String × Json)) (below : List Frame)
    (hnames : ((acc ++ m :: ms).map Prod.fst).Nodup)
    (hdepth : below.length + 1 + membersHeight (m :: ms) ≤ depth) :
    Leads depth (.name acc below) (memberTokens (m :: ms)) (.moreMembers (acc ++ m :: ms) below) := by
  -- The names read so far stay distinct from those to come, which is the invariant of the loop.
  induction ms generalizing m acc with
  | nil =>
    rw [membersHeight, membersHeight] at hdepth
    exact (h m (List.mem_singleton_self m)).member below (notMem_of_nodup_append hnames) (by omega)
  | cons n ns ih =>
    rw [membersHeight] at hdepth
    have hfirst := (h m (List.mem_cons_self ..)).member below
      (notMem_of_nodup_append hnames) (by omega)
    rw [List.append_cons] at hnames ⊢
    have hmore := ih (fun u hu => h u (List.mem_cons_of_mem m hu)) (acc ++ [m]) hnames (by omega)
    exact hfirst.append (.cons rfl hmore)

/-- Every value is read back, whatever arrays and objects are open around it. -/
theorem readsBack {v : Json} (hv : v.NamesOnce) : ReadsBack depth v := by
  induction hv with
  | null | bool | number | string => exact fun _ _ => rfl
  | @array items _ ih =>
    intro below hdepth
    rw [height] at hdepth
    -- Opening the array takes one level of the depth that its height asks for.
    have hopen : step depth (.value below) .openArray = some (.firstItem below) :=
      if_pos (by omega)
    cases items with
    | nil => exact .cons hopen rfl
    | cons v vs =>
      have hitems := leads_items ih [] below (by omega)
      rw [List.append_nil] at hitems
      have hclose : Leads depth (.moreItems (v :: vs).reverse below) [.closeArray]
          (afterValue (.array (v :: vs)) below) := by
        rw [Leads, List.foldlM_cons, step, List.reverse_reverse]
        rfl
      rw [tokens]
      exact (Leads.cons hopen (.firstItem (exists_mem_head?_itemTokens v vs) hitems)).append hclose
  | @object members hnames _ ih =>
    intro below hdepth
    rw [height] at hdepth
    -- Objects are opened in the same way.
    have hopen : step depth (.value below) .openObject = some (.firstName below) :=
      if_pos (by omega)
    cases members with
    | nil => exact .cons hopen rfl
    | cons m ms =>
      have hmembers := leads_members ih [] below hnames (by omega)
      -- The first name of an object is read like any other.
      have hfirst : Leads depth (.firstName below) (memberTokens (m :: ms))
          (.moreMembers (m :: ms) below) := by
        cases ms <;> exact hmembers
      have hclose : Leads depth (.moreMembers (m :: ms) below) [.closeObject]
          (afterValue (.object (m :: ms)) below) := rfl
      rw [tokens]
      exact (Leads.cons hopen hfirst).append hclose

end Expecting

/-! ## Texts -/

/-- A text that is spelled by the tokens of a document is read as the document. -/
theorem parseWithin?_of_spelledBy {v : Json} (hv : v.NamesOnce) {depth : Nat}
    (hdepth : v.height ≤ depth) {cs : List Char} (h : Token.SpelledBy v.tokens cs) :
    parseWithin? depth cs = some v := by
  have hleads : Expecting.Leads depth (.value []) v.tokens (.nothing v) :=
    Expecting.readsBack hv [] (by simpa using hdepth)
  rw [parseWithin?, h.ofChars?_eq, Option.bind_some, ofTokens?, hleads]
  rfl

end FilterQuery.Json
