/-
# SchemaDiagram.Proofs.Schema.EdgeOrigin -- which fields the edges come from

An edge is drawn for the first relation of each key (`exists_edge_iff`), and
looking up the fields that refer back changes neither keys nor ends.

A model declares a relation if one of its relation fields has the name and the
target of that relation.  Every relation of a block is declared by the model of
that block (`declares_of_mem_relations`).  But only closed blocks become models,
while all blocks add relations.  So the edges of a text are declared by its
models exactly if this holds of the edges that blocks without an end draw
(`edges_declared_iff`); one such block is enough for an edge that leaves nowhere
(`unclosed_block_draws_edge`).
-/
import SchemaDiagram.Proofs.Schema.Block
import SchemaDiagram.Proofs.Schema.Drawing

namespace SchemaDiagram

set_option autoImplicit false

/-! ## Edges and relations -/

namespace Relation

/-- No relation before `r` has its key. -/
def IsFirst (r : Relation) (relations : List Relation) : Prop :=
  relations.find? (·.key == r.key) = some r

theorem IsFirst.mem {r : Relation} {relations : List Relation} (first : r.IsFirst relations) :
    r ∈ relations :=
  List.mem_of_find?_eq_some first

theorem isFirst_map_resolve_iff {models : List Model} {relations : List Relation} {r : Relation} :
    r.IsFirst (relations.map (resolve models)) ↔
      ∃ q : Relation, q.IsFirst relations ∧ q.resolve models = r := by
  have keys : (relations.map (resolve models)).find? (·.key == r.key) =
      (relations.find? (·.key == r.key)).map (resolve models) := List.find?_map
  rw [IsFirst, keys, Option.map_eq_some_iff]
  constructor
  · rintro ⟨q, found, rfl⟩
    exact ⟨q, found, rfl⟩
  · rintro ⟨q, found, rfl⟩
    exact ⟨q, found, rfl⟩

end Relation

namespace Edge

/-- An edge is drawn for the first relation of each key, and for no other. -/
theorem exists_edge_iff {relations : List Relation} {r : Relation} :
    (∃ e ∈ ofRelations relations, e.toRelation = r) ↔ r.IsFirst relations := by
  rw [Relation.IsFirst, ← Relation.exists_place_iff, ofRelations_eq]
  constructor
  · rintro ⟨e, drawn, rfl⟩
    obtain ⟨p, first, rfl⟩ := List.mem_map.1 drawn
    exact ⟨p.2, first⟩
  · rintro ⟨i, first⟩
    exact ⟨r.edge i, List.mem_map_of_mem first, rfl⟩

end Edge

/-! ## Declared relations -/

/-- Some relation field of the model has the name and the target of the relation. -/
def Model.Declares (m : Model) (r : Relation) : Prop :=
  m.name = r.source ∧
    ∃ f ∈ m.fields, f.isRelation = true ∧ f.name = r.sourceField ∧ f.relationTo = some r.target

namespace ModelBlock

theorem declares_of_mem_relations {b : ModelBlock} {r : Relation} (mem : r ∈ b.relations) :
    b.model.Declares r := by
  obtain ⟨line, inside, added⟩ := List.mem_filterMap.1 mem
  obtain ⟨f, declared, added⟩ := Option.bind_eq_some_iff.1 added
  have field : f ∈ b.model.fields := List.mem_filterMap.2 ⟨line, inside, declared⟩
  unfold Scan.relationOf? at added
  split at added
  · rename_i target named
    split at added
    · rename_i holds
      cases added
      rw [Bool.and_eq_true, bne_iff_ne] at holds
      exact ⟨rfl, f, field, holds.1, rfl, by simp [Relation.ofField, named, holds.2]⟩
    · cases added
  · cases added

end ModelBlock

namespace Schema

/-- The relations that an edge of a text may be drawn for. -/
theorem forall_edges_iff {text : String} {resolveBackFields : Bool} {P : Relation → Prop}
    (invariant : ∀ models r, P (Relation.resolve models r) ↔ P r) :
    (∀ e ∈ (ofText text resolveBackFields).edges, P e.toRelation) ↔
      ∀ r : Relation, r.IsFirst ((modelBlocks (linesOf text)).flatMap (·.relations)) → P r := by
  have drawn : (∀ e ∈ (ofText text resolveBackFields).edges, P e.toRelation) ↔
      ∀ r : Relation,
        r.IsFirst ((Scan.run (linesOf text)).finalRelations resolveBackFields) → P r := by
    simp only [ofText, ← Edge.exists_edge_iff]
    exact ⟨fun all r ⟨e, mem, same⟩ => same ▸ all e mem, fun all e mem => all _ ⟨e, mem, rfl⟩⟩
  rw [drawn, ← Scan.relations_run]
  cases resolveBackFields with
  | false => rfl
  | true =>
      simp only [Scan.finalRelations, if_true, Relation.isFirst_map_resolve_iff]
      constructor
      · exact fun all r first => (invariant _ r).1 (all _ ⟨r, first, rfl⟩)
      · rintro all _ ⟨r, first, rfl⟩
        exact (invariant _ r).2 (all r first)

theorem mem_models_iff {text : String} {resolveBackFields : Bool} {m : Model} :
    m ∈ (ofText text resolveBackFields).models ↔
      ∃ b ∈ modelBlocks (linesOf text), b.closed = true ∧ b.model = m := by
  simp [ofText, Scan.models_run, and_assoc]

/-- **When every edge of a text is declared by a model of it**: exactly if each
relation that a block without an end is the first to add is declared by a closed
block as well. -/
theorem edges_declared_iff (text : String) (resolveBackFields : Bool) :
    (∀ e ∈ (ofText text resolveBackFields).edges,
        ∃ m ∈ (ofText text resolveBackFields).models, m.Declares e.toRelation) ↔
      ∀ b ∈ modelBlocks (linesOf text), b.closed = false → ∀ r ∈ b.relations,
        r.IsFirst ((modelBlocks (linesOf text)).flatMap (·.relations)) →
          ∃ kept ∈ modelBlocks (linesOf text), kept.closed = true ∧ kept.model.Declares r := by
  have declared (r : Relation) :
      (∃ m ∈ (ofText text resolveBackFields).models, m.Declares r) ↔
        ∃ b ∈ modelBlocks (linesOf text), b.closed = true ∧ b.model.Declares r := by
    simp only [mem_models_iff]
    constructor
    · rintro ⟨_, ⟨b, mem, closed, rfl⟩, declares⟩
      exact ⟨b, mem, closed, declares⟩
    · rintro ⟨b, mem, closed, declares⟩
      exact ⟨_, ⟨b, mem, closed, rfl⟩, declares⟩
  simp only [declared]
  refine (forall_edges_iff
    (P := fun r => ∃ b ∈ modelBlocks (linesOf text), b.closed = true ∧ b.model.Declares r)
    fun _ _ => Iff.rfl).trans ?_
  constructor
  · exact fun all b _ _ r _ first => all r first
  · intro dropped r first
    obtain ⟨b, mem, added⟩ := List.mem_flatMap.1 first.mem
    cases closed : b.closed with
    | true => exact ⟨b, mem, closed, ModelBlock.declares_of_mem_relations added⟩
    | false => exact dropped b mem closed r added first

/-- A block without an end is no model, but its relation is drawn. -/
theorem unclosed_block_draws_edge :
    ¬ ∀ e ∈ (ofText "model A \x7b\n  b B" false).edges,
        ∃ m ∈ (ofText "model A \x7b\n  b B" false).models, m.Declares e.toRelation := by
  have noModels : (ofText "model A \x7b\n  b B" false).models = [] := by decide +kernel
  have someEdge : (ofText "model A \x7b\n  b B" false).edges ≠ [] := by decide +kernel
  obtain ⟨e, mem⟩ := List.exists_mem_of_ne_nil _ someEdge
  intro all
  obtain ⟨m, member, -⟩ := all e mem
  rw [noModels] at member
  cases member

end Schema

end SchemaDiagram
