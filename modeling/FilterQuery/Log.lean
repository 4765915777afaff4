import FilterQuery.Search

/-! # Log events

Building a configuration and reading a filter string are logged: what was made, and which parts of the
filter string were left out. This module says which events these are, in their order. No result depends
on them; whether they are written, and how, is up to the library that keeps the log.

* `length_filterEvents`   no token of a filter string is left out without an event
-/

namespace FilterQuery

namespace Log

/-- How much an event matters. -/
inductive Level where
  | debug
  | trace
  deriving DecidableEq

/-- What a field of an event holds. -/
inductive Content where
  | bool (b : Bool)
  | natural (n : Nat)
  /-- A text that is shown between quotes. -/
  | text (s : String)
  /-- A value that is shown by this wording. -/
  | shown (s : String)
  deriving DecidableEq

/-- Something that is worth a line in the log. -/
structure Event where
  level : Level
  /-- The part of the program that reports the event. -/
  target : String
  message : String
  /-- What else is known, by name. -/
  fields : List (String × Content)
  deriving DecidableEq

end Log

open Log

/-- The event of a token that is left out: it is no clause, or its value is empty. -/
def Grammar.tokenEvent? (g : Grammar) (token : List Char) : Option Event :=
  match g.classify token with
  | none =>
    some ⟨.debug, "djolar::tokenizer", "Skipping unrecognised clause",
      [("token", .text (String.ofList token))]⟩
  | some clause =>
    if clause.value.isEmpty then
      some ⟨.debug, "djolar::tokenizer", "Skipping clause with empty value",
        [("token", .text (String.ofList token)), ("key", .shown clause.key)]⟩
    else none

namespace Config

/-- The event of a configuration that has been built. -/
def builtEvent (c : Config) : Event :=
  ⟨.trace, "djolar::config", "Built searcher config",
    [("keys", .natural c.mapping.size), ("grammar", .shown c.grammar.name),
      ("case_sensitive", .bool c.caseSensitive)]⟩

/-- The event of a clause that is left out: its key stands for nothing. -/
def clauseEvent? (c : Config) (clause : Clause) : Option Event :=
  match c.mapping.get? clause.key with
  | none =>
    some ⟨.debug, "djolar::builder", "Dropping clause with unmapped key",
      [("key", .shown clause.key), ("operator", .shown clause.operator.code)]⟩
  | some _ => none

/-- The event of a filter that has been built. -/
def filterEvent (clauses : Option (List Clause)) : Event :=
  ⟨.debug, "djolar::searcher", "Built filter expression",
    [("present", .bool clauses.isSome), ("clauses", .natural (clauses.getD []).length)]⟩

/-- The events of a filter string. All tokens are read before the first clause is looked at. -/
def filterEvents (c : Config) (raw : Option String) : List Event :=
  let tokens := (raw.map fun raw => c.grammar.tokens raw.toList).getD []
  let clauses := raw.map c.grammar.tokenize
  tokens.filterMap c.grammar.tokenEvent? ++ (clauses.getD []).filterMap c.clauseEvent? ++
    [filterEvent clauses]

/-- The events of a request. The sort string comes first, and nothing follows if it is refused. -/
def searchEvents (c : Config) (request : Request) : List Event :=
  match c.order request.sort with
  | .ok _ => c.filterEvents request.filter
  | .error _ => []

end Config

/-! ## What is left out -/

/-- A token is left out with an event, or else it is a clause. -/
theorem Grammar.tokenEvent?_eq_none_iff {g : Grammar} {token : List Char} :
    g.tokenEvent? token = none ↔ (g.clause? token).isSome := by
  unfold tokenEvent? clause?
  cases g.classify token with
  | none => simp
  | some clause => cases h : clause.value.isEmpty <;> simp [h]

/-- A clause is left out with an event, or else it has a node. -/
theorem Config.clauseEvent?_eq_none_iff {c : Config} {clause : Clause} :
    c.clauseEvent? clause = none ↔ (c.node? clause).isSome := by
  unfold clauseEvent? node?
  cases c.mapping.get? clause.key <;> simp

/-- Two readings that share out the items of a list between them. -/
private theorem length_filterMap_add_length_filterMap {α β γ : Type} {f : α → Option β}
    {g : α → Option γ} (h : ∀ a, f a = none ↔ (g a).isSome) (as : List α) :
    (as.filterMap f).length + (as.filterMap g).length = as.length := by
  induction as with
  | nil => rfl
  | cons a as ih =>
    cases hf : f a with
    | none =>
      obtain ⟨b, hg⟩ := Option.isSome_iff_exists.1 ((h a).1 hf)
      simp only [List.filterMap_cons_none hf, List.filterMap_cons_some hg, List.length_cons]
      omega
    | some b =>
      have hg : g a = none := by
        rw [← Option.not_isSome_iff_eq_none, ← h a, hf]
        nofun
      simp only [List.filterMap_cons_some hf, List.filterMap_cons_none hg, List.length_cons]
      omega

/-- No token of a filter string is left out without an event: one that has no node in the tree is told
of, and there is one event more, that of the tree. -/
theorem Config.length_filterEvents (c : Config) (raw : String) :
    (c.filterEvents (some raw)).length + ((c.grammar.tokenize raw).filterMap c.node?).length =
      (c.grammar.tokens raw.toList).length + 1 := by
  have htokens := length_filterMap_add_length_filterMap
    (@Grammar.tokenEvent?_eq_none_iff c.grammar) (c.grammar.tokens raw.toList)
  have hclauses := length_filterMap_add_length_filterMap
    (@clauseEvent?_eq_none_iff c) (c.grammar.tokenize raw)
  have htokenize : c.grammar.tokenize raw =
      (c.grammar.tokens raw.toList).filterMap c.grammar.clause? := rfl
  rw [← htokenize] at htokens
  simp only [filterEvents, Option.map_some, Option.getD_some, List.length_append,
    List.length_singleton]
  omega

end FilterQuery
