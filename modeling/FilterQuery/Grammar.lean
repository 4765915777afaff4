import FilterQuery.Grammar.Colon
import FilterQuery.Grammar.Suffix

/-! # Grammars

A grammar cuts a filter string into tokens at its delimiter and reads a clause from each token.
Tokens that are no clause, and clauses without a value, are left out, so a filter string never
fails to be read.

* `tokenize_append`   filter strings joined with the delimiter are read independently
-/

namespace FilterQuery

/-- The two ways of writing a filter string. -/
inductive Grammar where
  | suffix
  | colon
  deriving DecidableEq

namespace Grammar

/-- The name of a grammar in documents. -/
def name : Grammar → String
  | suffix => "suffix"
  | colon => "colon"

/-- The grammar with a name. -/
def ofName? (s : String) : Option Grammar :=
  [suffix, colon].find? (·.name == s)

/-- What separates the tokens of a filter string. -/
def delimiter : Grammar → Char
  | suffix => '|'
  | colon => '+'

/-- The clause of a token; its value may be empty. -/
def classify : Grammar → List Char → Option Clause
  | suffix => Suffix.classify
  | colon => Colon.classify

/-- The clause of a token, unless its value is empty. -/
def clause? (g : Grammar) (token : List Char) : Option Clause :=
  (g.classify token).filter fun c => !c.value.isEmpty

/-- The tokens of a filter string. -/
def tokens (g : Grammar) (raw : List Char) : List (List Char) :=
  Text.words g.delimiter raw

/-- The clauses of a filter string, in the order of its tokens. -/
def tokenize (g : Grammar) (raw : String) : List Clause :=
  (g.tokens raw.toList).filterMap g.clause?

/-- A grammar is found by its name. -/
@[simp] theorem ofName?_name (g : Grammar) : ofName? g.name = some g := by
  cases g <;> decide

/-- Keys are free of delimiters. -/
theorem delimiter_notMem_of_isKey (g : Grammar) {k : List Char} (h : isKey k) :
    g.delimiter ∉ k := by
  intro hm
  have hchar : isKeyChar g.delimiter = false := by cases g <;> decide
  exact absurd ((isKey_iff.1 h).2 _ hm) (by simp [hchar])

/-- Filter strings joined with the delimiter are read independently. -/
theorem tokenize_append (g : Grammar) (x y : String) :
    g.tokenize (x ++ String.singleton g.delimiter ++ y) = g.tokenize x ++ g.tokenize y := by
  simp [tokenize, tokens, Text.words_append_cons]

/-- A text without delimiter is a token. -/
theorem tokenize_of_delimiter_notMem (g : Grammar) {raw : String} (h : g.delimiter ∉ raw.toList)
    (hne : raw.toList ≠ []) : g.tokenize raw = (g.clause? raw.toList).toList := by
  rw [tokenize, tokens, Text.words_of_notMem h hne]
  cases hc : g.clause? raw.toList <;> simp [hc]

/-- Texts without delimiter are the tokens of the filter string that they are joined to. -/
theorem tokens_intercalate {g : Grammar} {texts : List String}
    (h : ∀ text ∈ texts, g.delimiter ∉ text.toList ∧ text.toList ≠ []) :
    g.tokens ((String.singleton g.delimiter).intercalate texts).toList =
      texts.map String.toList := by
  have hwords : ∀ w ∈ texts.map String.toList, g.delimiter ∉ w ∧ w ≠ [] := by
    intro w hw
    obtain ⟨text, htext, rfl⟩ := List.mem_map.1 hw
    exact h text htext
  rw [tokens, String.toList_intercalate, String.toList_singleton]
  exact Text.words_intercalate hwords

/-- An empty filter string has no clauses. -/
@[simp] theorem tokenize_empty (g : Grammar) : g.tokenize "" = [] := by
  simp [tokenize, tokens, Text.words]

end Grammar

end FilterQuery
