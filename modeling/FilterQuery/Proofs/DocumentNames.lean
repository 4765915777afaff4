import FilterQuery.Config.Text

/-!
# Names in documents

No object of a document has two members of one name, `Json.NamesOnce`. The readers of both formats see
to it: of members with one name the first position and the last value remain.

## Key results

- `Json.namesOnce_of_parse?`, `Yaml.namesOnce_of_parse?`: the documents that each format reads
- `DocumentFormat.namesOnce_of_parse?`: every document that a text holds names members once
-/

namespace FilterQuery

/-- No object of the document has two members of one name. -/
inductive Json.NamesOnce : Json → Prop where
  | null : NamesOnce .null
  | bool (b : Bool) : NamesOnce (.bool b)
  | number (n : Number) : NamesOnce (.number n)
  | string (s : String) : NamesOnce (.string s)
  | array {items : List Json} (h : ∀ v ∈ items, NamesOnce v) : NamesOnce (.array items)
  | object {members : List (String × Json)} (hnames : (members.map Prod.fst).Nodup)
    (h : ∀ m ∈ members, NamesOnce m.2) : NamesOnce (.object members)

namespace Json

/-- The members of an object that names them once. -/
structure MembersOnce (members : List (String × Json)) : Prop where
  nodup : (members.map Prod.fst).Nodup
  values : ∀ m ∈ members, NamesOnce m.2

/-- An object names members once when its own members do. -/
theorem namesOnce_object_iff {members : List (String × Json)} :
    NamesOnce (.object members) ↔ MembersOnce members := by
  constructor
  · intro h
    cases h with
    | object hnames h => exact ⟨hnames, h⟩
  · intro h
    exact .object h.nodup h.values

private theorem membersOnce_nil : MembersOnce [] := ⟨.nil, by simp⟩

/-- A member that is put among others joins them or takes the place of the one with its name. -/
theorem MembersOnce.put {members : List (String × Json)} (h : MembersOnce members) (name : String)
    {v : Json} (hv : v.NamesOnce) : MembersOnce (Pairs.put name v members) := by
  refine ⟨Pairs.nodup_keys_put name v h.nodup, fun m hm => ?_⟩
  rcases Pairs.mem_put hm with rfl | hm
  · exact hv
  · exact h.values m hm

/-! ## JSON -/

/-- An open array or object holds values that name members once. -/
inductive Frame.Once : Frame → Prop where
  | array {items : List Json} (h : ∀ v ∈ items, v.NamesOnce) : Once (.array items)
  | object {members : List (String × Json)} {key : String} (h : MembersOnce members) :
    Once (.object members key)

/-- What was read so far names members once. -/
inductive Expecting.Once : Expecting → Prop where
  | value {below : List Frame} (h : ∀ f ∈ below, f.Once) : Once (.value below)
  | firstItem {below : List Frame} (h : ∀ f ∈ below, f.Once) : Once (.firstItem below)
  | moreItems {items : List Json} {below : List Frame} (hi : ∀ v ∈ items, v.NamesOnce)
    (h : ∀ f ∈ below, f.Once) : Once (.moreItems items below)
  | firstName {below : List Frame} (h : ∀ f ∈ below, f.Once) : Once (.firstName below)
  | name {members : List (String × Json)} {below : List Frame} (hm : MembersOnce members)
    (h : ∀ f ∈ below, f.Once) : Once (.name members below)
  | colon {members : List (String × Json)} {key : String} {below : List Frame}
    (hm : MembersOnce members) (h : ∀ f ∈ below, f.Once) : Once (.colon members key below)
  | moreMembers {members : List (String × Json)} {below : List Frame} (hm : MembersOnce members)
    (h : ∀ f ∈ below, f.Once) : Once (.moreMembers members below)
  | nothing {document : Json} (h : document.NamesOnce) : Once (.nothing document)

namespace Expecting

/-- A value that is complete joins the array or object around it, or is the document. -/
private theorem once_afterValue {v : Json} {below : List Frame} (hv : v.NamesOnce)
    (h : ∀ f ∈ below, f.Once) : (afterValue v below).Once := by
  -- What is below the value decides where it goes.
  cases below with
  | nil => exact .nothing hv
  | cons f below =>
    rw [List.forall_mem_cons] at h
    obtain ⟨hf, hbelow⟩ := h
    cases hf with
    | array hi => exact .moreItems (by simpa using ⟨hv, hi⟩) hbelow
    | object hm => exact .moreMembers (hm.put _ hv) hbelow

/-- The token of a value, where one may begin, is a complete value or opens an array or object. -/
private theorem once_beginValue {depth : Nat} {below : List Frame} {t : Token} {x : Expecting}
    (h : ∀ f ∈ below, f.Once) (hx : beginValue depth below t = some x) : x.Once := by
  cases t <;>
    simp only [beginValue, Option.some.injEq, reduceCtorEq, Option.ite_none_right_eq_some] at hx
  case null => exact hx ▸ once_afterValue .null h
  case bool b => exact hx ▸ once_afterValue (.bool b) h
  case number n => exact hx ▸ once_afterValue (.number n) h
  case string s => exact hx ▸ once_afterValue (.string s) h
  case openArray => exact hx.2 ▸ .firstItem h
  case openObject => exact hx.2 ▸ .firstName h

/-- A token adds values that name members once. -/
theorem once_step {depth : Nat} {x y : Expecting} {t : Token} (hx : x.Once)
    (h : step depth x t = some y) : y.Once := by
  -- One case for each pair of a state and a token that fits there; in all of them the invariant
  -- says what was read so far, and the token adds at most one value.
  unfold step at h
  split at h
  · cases hx with
    | value hbelow => exact once_beginValue hbelow h
  · cases hx with
    | firstItem hbelow => exact Option.some.inj h ▸ once_afterValue (.array (by simp)) hbelow
  · cases hx with
    | firstItem hbelow =>
      have hframe : ∀ f ∈ Frame.array [] :: _, f.Once :=
        List.forall_mem_cons.2 ⟨.array (by simp), hbelow⟩
      exact once_beginValue hframe h
  · cases hx with
    | moreItems hi hbelow =>
      exact Option.some.inj h ▸ .value (List.forall_mem_cons.2 ⟨.array hi, hbelow⟩)
  · cases hx with
    | moreItems hi hbelow =>
      exact Option.some.inj h ▸ once_afterValue (.array (by simpa using hi)) hbelow
  · cases hx with
    | firstName hbelow =>
      exact Option.some.inj h ▸ once_afterValue (namesOnce_object_iff.2 membersOnce_nil) hbelow
  · cases hx with
    | firstName hbelow => exact Option.some.inj h ▸ .colon membersOnce_nil hbelow
  · cases hx with
    | name hm hbelow => exact Option.some.inj h ▸ .colon hm hbelow
  · cases hx with
    | colon hm hbelow =>
      exact Option.some.inj h ▸ .value (List.forall_mem_cons.2 ⟨.object hm, hbelow⟩)
  · cases hx with
    | moreMembers hm hbelow => exact Option.some.inj h ▸ .name hm hbelow
  · cases hx with
    | moreMembers hm hbelow =>
      exact Option.some.inj h ▸ once_afterValue (namesOnce_object_iff.2 hm) hbelow
  · exact nomatch h

/-- All tokens do. -/
private theorem once_foldlM {depth : Nat} {tokens : List Token} {x y : Expecting} (hx : x.Once)
    (h : tokens.foldlM (step depth) x = some y) : y.Once := by
  -- The state in front of the tokens is generalized, each token leading to the next one.
  induction tokens generalizing x with
  | nil => exact Option.some.inj h ▸ hx
  | cons t tokens ih =>
    rw [List.foldlM_cons] at h
    obtain ⟨z, hz, h⟩ := Option.bind_eq_some_iff.1 h
    exact ih (once_step hx hz) h

end Expecting

/-- The documents that are read from JSON texts name members once. -/
theorem namesOnce_of_parse? {s : String} {v : Json} (h : parse? s = some v) : v.NamesOnce := by
  obtain ⟨tokens, -, h⟩ := Option.bind_eq_some_iff.1 h
  obtain ⟨x, hx, hv⟩ := Option.bind_eq_some_iff.1 h
  have honce : x.Once := Expecting.once_foldlM (.value (by simp)) hx
  -- A document is complete in one of the states only, that in which nothing more is expected.
  cases honce with
  | nothing hdoc => exact Option.some.inj hv ▸ hdoc
  | value | firstItem | moreItems | firstName | name | colon | moreMembers => exact nomatch hv

end Json

/-! ## YAML -/

namespace Yaml

open Json (NamesOnce MembersOnce)

private theorem namesOnce_integerValue {n : Int} {v : Json} (h : integerValue n = some v) :
    v.NamesOnce := by
  obtain ⟨-, h⟩ := Option.ite_none_right_eq_some.1 h
  exact Option.some.inj h ▸ .number _

private theorem namesOnce_real? {s : List Char} {v : Json} (h : real? s = some v) : v.NamesOnce := by
  unfold real? at h
  split at h
  · exact Option.some.inj h ▸ .null
  · obtain ⟨x, -, rfl⟩ := Option.map_eq_some_iff.1 h
    exact .number _

/-- A plain scalar is read as one of the values without members. -/
private theorem namesOnce_plainValue? {s : List Char} {v : Json} (h : plainValue? s = some v) :
    v.NamesOnce := by
  unfold plainValue? at h
  split at h
  · exact Option.some.inj h ▸ .null
  · split at h
    · exact Option.some.inj h ▸ .bool _
    · exact namesOnce_integerValue h
    · split at h
      · exact Option.some.inj h ▸ .string _
      · -- What is no number is the text itself.
        obtain rfl := Option.some.inj h
        cases hreal : real? s with
        | none => exact .string _
        | some w => exact namesOnce_real? hreal

/-- A scalar with the tag of a kind is read as a value without members. -/
private theorem namesOnce_scalarKind_value? {s : List Char} {kind : ScalarKind} {v : Json}
    (h : kind.value? s = some v) : v.NamesOnce := by
  cases kind with
  | null =>
    obtain ⟨-, h⟩ := Option.ite_none_right_eq_some.1 h
    exact Option.some.inj h ▸ .null
  | bool =>
    obtain ⟨b, -, rfl⟩ := Option.map_eq_some_iff.1 h
    exact .bool b
  | integer =>
    obtain ⟨n, -, h⟩ := Option.bind_eq_some_iff.1 h
    exact namesOnce_integerValue h
  | real => exact namesOnce_real? h

/-- No scalar has members, whatever its tag and its quotes. -/
private theorem namesOnce_scalarValue? {tag : Option (List UInt8)} {plain : Bool} {s : List Char}
    {v : Json}
    (h : scalarValue? tag plain s = some v) : v.NamesOnce := by
  unfold scalarValue? at h
  split at h
  · exact nomatch h
  · split at h
    · split at h
      · exact namesOnce_plainValue? h
      · exact Option.some.inj h ▸ .string _
    · split at h
      · exact namesOnce_scalarKind_value? h
      · exact Option.some.inj h ▸ .string _

namespace Node

/-- Whatever a reading that follows aliases gives is of a kind. -/
def Gives {α : Type} (P : α → Prop) (reading : Following α) : Prop :=
  ∀ left a left', reading left = some (a, left') → P a

variable {α β : Type} {P : α → Prop} {Q : β → Prop}

private theorem gives_pure {a : α} (h : P a) : Gives P (pure a : Following α) := by
  intro left b left' hb
  obtain rfl : a = b := congrArg Prod.fst (Option.some.inj hb)
  exact h

private theorem gives_failure : Gives P (failure : Following α) := nofun

/-- A reading that leaves the aliases alone gives what it finds. -/
private theorem gives_lift {x : Option α} (h : ∀ a, x = some a → P a) :
    Gives P (liftM x : Following α) := by
  intro left a left' ha
  obtain ⟨b, hb, hba⟩ := Option.bind_eq_some_iff.1 ha
  obtain rfl : b = a := congrArg Prod.fst (Option.some.inj hba)
  exact h b hb

/-- Two readings, one after the other, give what the second gives behind anything the first gives. -/
private theorem gives_bind {x : Following α} {f : α → Following β} (hx : Gives P x)
    (hf : ∀ a, P a → Gives Q (f a)) : Gives Q (x >>= f) := by
  intro left b left' hb
  -- The first reading leaves some aliases, and the second goes on with these.
  obtain ⟨⟨a, middle⟩, ha, hb⟩ := Option.bind_eq_some_iff.1 hb
  exact hf a (hx left a middle ha) middle b left' hb

private theorem gives_map {x : Following α} {f : α → β} (hx : Gives P x) (hf : ∀ a, P a → Q (f a)) :
    Gives Q (f <$> x) := by
  rw [map_eq_pure_bind]
  exact gives_bind hx fun a ha => gives_pure (hf a ha)

/-- Reading a list gives items that are each of the kind. -/
private theorem gives_mapM {f : β → Following α} (h : ∀ b, Gives P (f b)) (bs : List β) :
    Gives (fun as => ∀ a ∈ as, P a) (bs.mapM f) := by
  induction bs with
  | nil => exact gives_pure (by simp)
  | cons b bs ih =>
    rw [List.mapM_cons]
    refine gives_bind (h b) fun a ha => gives_bind ih fun as has => gives_pure ?_
    exact List.forall_mem_cons.2 ⟨ha, has⟩

/-- A kind that every step keeps is kept by all steps. -/
private theorem gives_foldlM {f : α → β → Following α} (h : ∀ a b, P a → Gives P (f a b)) {a : α}
    (ha : P a)
    (bs : List β) : Gives P (bs.foldlM f a) := by
  induction bs generalizing a with
  | nil => exact gives_pure ha
  | cons b bs ih =>
    rw [List.foldlM_cons]
    exact gives_bind (h a b ha) fun a' ha' => ih ha'

/-- The value of a node names members once, however aliases are followed. -/
private theorem gives_valueWithin (anchors : List (Nat × Node)) (depth : Nat) (v : Node) :
    Gives NamesOnce (valueWithin anchors depth v) := by
  have hany : ∀ (γ : Type) (x : Following γ), Gives (fun _ => True) x := fun _ _ _ _ _ _ => trivial
  -- The depth bounds how values nest, so the values inside this one are one level closer to zero.
  induction depth generalizing v with
  | zero =>
    rw [valueWithin]
    refine gives_bind (hany _ _) fun w _ => ?_
    cases w with
    | scalar => exact gives_lift fun _ => namesOnce_scalarValue?
    | reference | sequence | mapping => exact gives_failure
  | succ depth ih =>
    rw [valueWithin]
    refine gives_bind (hany _ _) fun w _ => ?_
    cases w with
    | scalar => exact gives_lift fun _ => namesOnce_scalarValue?
    -- An alias has been followed before, so none is left here.
    | reference => exact gives_failure
    | sequence p items =>
      dsimp only
      split
      · exact gives_failure
      · exact gives_map (gives_mapM ih items) fun _ => .array
    | mapping p pairs =>
      dsimp only
      split
      · exact gives_failure
      · refine gives_map (P := Json.MembersOnce) (gives_foldlM ?_ Json.membersOnce_nil pairs)
          fun _ => Json.namesOnce_object_iff.2
        -- The members before are the invariant of the loop over pairs.
        intro members pair hmembers
        refine gives_bind (hany _ _) fun name _ => gives_bind (ih pair.2) fun value hvalue => ?_
        exact gives_pure (hmembers.put name hvalue)

end Node

/-- The documents that are read from YAML texts name members once. -/
theorem namesOnce_of_parse? {s : String} {v : Json} (h : parse? s = some v) : v.NamesOnce := by
  obtain ⟨node, -, h⟩ := Option.bind_eq_some_iff.1 h
  obtain ⟨⟨w, left⟩, hw, rfl⟩ := Option.map_eq_some_iff.1 h
  exact Node.gives_valueWithin _ _ node _ w left hw

end Yaml

/-- Every document that a text holds names members once. -/
theorem DocumentFormat.namesOnce_of_parse? {format : DocumentFormat} {s : String} {v : Json}
    (h : format.parse? s = some v) : v.NamesOnce := by
  cases format with
  | json => exact Json.namesOnce_of_parse? h
  | yaml => exact Yaml.namesOnce_of_parse? h

end FilterQuery
