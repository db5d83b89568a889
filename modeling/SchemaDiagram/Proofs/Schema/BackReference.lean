/-
# SchemaDiagram.Proofs.Schema.BackReference -- looking up the fields that refer back

A relation is referred back to by a relation field of a model that is named as its
target, if that field refers to its source; where both ends have one name, the field of
the relation itself does not count (`ReferredBackBy`).  The look-up finds such a field
exactly if there is one (`backField?_eq_none_iff`).

Keys and ends of a relation stay, so the same relations are the first of their keys, and
each edge is drawn for the relation that it is drawn for otherwise (`ofRelations_resolve`).
The edges of a text therefore differ in their target fields alone, and only those that
are referred back to (`ofText_resolved`).
-/
import Mathlib.Data.List.Forall2
import SchemaDiagram.Schema.Scan

namespace SchemaDiagram

set_option autoImplicit false

/-! ## Relations -/

namespace Relation

/-- A field of that name refers back along the relation. -/
def ReferredBackBy (r : Relation) (models : List Model) (name : String) : Prop :=
  ∃ m ∈ models, m.name = r.target ∧
    ∃ f ∈ m.fields, f.isRelation = true ∧ f.relationTo = some r.source ∧
      (r.source = r.target → f.name ≠ r.sourceField) ∧ f.name = name

variable {r : Relation} {models : List Model} {name : String}

theorem refersBack_iff {m : Model} {f : Field} (named : m.name = r.target) :
    r.refersBack m f = true ↔
      f.relationTo = some r.source ∧ (r.source = r.target → f.name ≠ r.sourceField) := by
  have ends : m.name = r.source ↔ r.source = r.target := by rw [named, eq_comm]
  simp [refersBack, ends, imp_iff_not_or]

theorem referredBackBy_of_backField? (found : r.backField? models = some name) :
    r.ReferredBackBy models name := by
  obtain ⟨m, candidate, found⟩ := List.exists_of_findSome?_eq_some found
  obtain ⟨inside, named⟩ := List.mem_filter.1 candidate
  have named : m.name = r.target := beq_iff_eq.1 named
  obtain ⟨f, first, rfl⟩ := Option.map_eq_some_iff.1 found
  obtain ⟨field, relates⟩ := List.mem_filter.1 (List.mem_of_find?_eq_some first)
  obtain ⟨back, other⟩ := (refersBack_iff named).1 (List.find?_some first)
  exact ⟨m, inside, named, f, field, relates, back, other, rfl⟩

/-- The look-up misses no field that refers back. -/
theorem backField?_eq_none_iff :
    r.backField? models = none ↔ ∀ name, ¬ r.ReferredBackBy models name := by
  constructor
  · rintro missed name ⟨m, inside, named, f, field, relates, back, other, -⟩
    have candidate : m ∈ models.filter (·.name == r.target) :=
      List.mem_filter.2 ⟨inside, beq_iff_eq.2 named⟩
    have noField := List.findSome?_eq_none_iff.1 missed m candidate
    rw [Option.map_eq_none_iff, List.find?_eq_none] at noField
    exact noField f (List.mem_filter.2 ⟨field, relates⟩) ((refersBack_iff named).2 ⟨back, other⟩)
  · intro absent
    cases found : r.backField? models with
    | none => rfl
    | some name => exact absurd (referredBackBy_of_backField? found) (absent name)

end Relation

/-! ## Edges -/

namespace Edge

/-- The edge of the relation with its target field looked up. -/
def resolve (models : List Model) (e : Edge) : Edge :=
  { e with toRelation := e.toRelation.resolve models }

/-- A looked-up relation has the key that it had, so it is drawn or left out as before. -/
theorem ofRelationsFrom_resolve (models : List Model) {relations : List Relation} :
    ∀ {drawn : List String} {index : Nat},
      ofRelationsFrom drawn index (relations.map (Relation.resolve models)) =
        (ofRelationsFrom drawn index relations).map (resolve models) := by
  induction relations with
  | nil => exact rfl
  | cons r rest ih =>
      intro drawn index
      have sameKey : (r.resolve models).key = r.key := rfl
      have sameEdge : (r.resolve models).edge index = (r.edge index).resolve models := rfl
      rw [List.map_cons, ofRelationsFrom, ofRelationsFrom, sameKey, sameEdge, ih, ih]
      split
      · rfl
      · rw [List.map_cons]

theorem ofRelations_resolve (models : List Model) (relations : List Relation) :
    ofRelations (relations.map (Relation.resolve models)) =
      (ofRelations relations).map (resolve models) :=
  ofRelationsFrom_resolve models

/-- `e'` is the edge `e` but for its target field.  That is the name of a field that
refers back, if one of the models has such a field, and else the one of `e`. -/
structure ResolvesTo (models : List Model) (e e' : Edge) : Prop where
  rest : e' = { e with targetField := e'.targetField }
  back : (∃ name, e.ReferredBackBy models name) →
    ∃ name, e.ReferredBackBy models name ∧ e'.targetField = some name
  guess : (¬ ∃ name, e.ReferredBackBy models name) → e'.targetField = e.targetField

theorem resolvesTo_resolve (models : List Model) (e : Edge) :
    ResolvesTo models e (e.resolve models) := by
  have looked : (e.resolve models).targetField =
      (e.toRelation.backField? models).or e.targetField := rfl
  refine ⟨rfl, fun ⟨name, referred⟩ => ?_, fun absent => ?_⟩
  · cases found : e.toRelation.backField? models with
    | none => exact absurd referred (Relation.backField?_eq_none_iff.1 found name)
    | some back =>
        refine ⟨back, Relation.referredBackBy_of_backField? found, ?_⟩
        rw [looked, found, Option.some_or]
  · have missed := Relation.backField?_eq_none_iff.2 (not_exists.1 absent)
    rw [looked, missed, Option.none_or]

end Edge

/-! ## Texts -/

/-- **Looking up what refers back changes target fields alone.**  Models and enums of a
text are the same, and edge by edge only the target field may differ: it is the name of
a field that refers back, wherever there is one. -/
theorem Schema.ofText_resolved (text : String) :
    let guessed := ofText text false
    let resolved := ofText text true
    resolved.models = guessed.models ∧ resolved.enums = guessed.enums ∧
      List.Forall₂ (Edge.ResolvesTo guessed.models) guessed.edges resolved.edges := by
  intro guessed resolved
  have edges : resolved.edges = guessed.edges.map (Edge.resolve guessed.models) :=
    Edge.ofRelations_resolve _ _
  refine ⟨rfl, rfl, ?_⟩
  rw [edges, List.forall₂_map_right_iff, List.forall₂_same]
  exact fun e _ => Edge.resolvesTo_resolve _ e

end SchemaDiagram
