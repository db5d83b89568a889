/-
# SchemaDiagram.Proofs.Diagram.Replacement -- what replacing a model does to the edges

When a model takes the place of the model `name`, the edges that leave `name` from
something that is no relation field of the new model are dropped.  Each other edge
is `renamed`: its ends follow the new name, and nothing else of it changes
(`mem_edges_replaceModel_iff`).
-/
import SchemaDiagram.Diagram.Basic

namespace SchemaDiagram

set_option autoImplicit false

/-- Some relation field of the model has that name. -/
def Model.RelatesBy (m : Model) (field : String) : Prop :=
  ∃ f ∈ m.fields, f.isRelation = true ∧ f.name = field

instance (m : Model) (field : String) : Decidable (m.RelatesBy field) :=
  inferInstanceAs (Decidable (∃ f ∈ m.fields, f.isRelation = true ∧ f.name = field))

theorem Model.relatesBy_iff_mem {m : Model} {field : String} :
    m.RelatesBy field ↔ field ∈ m.relationFields.map (·.name) := by
  simp [RelatesBy, relationFields, and_assoc]

/-- The edge starts or ends at a model of that name. -/
def Edge.Touches (e : Edge) (name : String) : Prop :=
  e.source = name ∨ e.target = name

instance (e : Edge) (name : String) : Decidable (e.Touches name) :=
  inferInstanceAs (Decidable (e.source = name ∨ e.target = name))

/-- The edge with the new name at each end that is named `old`. -/
def Edge.renamed (old new : String) (e : Edge) : Edge :=
  { e with
    source := if e.source = old then new else e.source
    target := if e.target = old then new else e.target }

/-- The ends of an edge stay if the new name is the old one, or is that of no end. -/
theorem Edge.renamed_eq_self {old new : String} {e : Edge}
    (unmoved : new = old ∨ (e.source ≠ old ∧ e.target ≠ old)) : e.renamed old new = e := by
  rcases unmoved with rfl | ⟨source, target⟩
  · have same (end_ : String) : (if end_ = new then new else end_) = end_ :=
      ite_eq_right_iff.2 Eq.symm
    rw [renamed, same, same]
  · rw [renamed, if_neg source, if_neg target]

namespace Schema

variable {s : Schema} {name : String} {new : Model}

theorem followEdge_eq (name : String) (new : Model) (e : Edge) :
    followEdge name new e =
      if e.source = name ∧ ¬ new.RelatesBy e.sourceField then none
      else some (e.renamed name new.name) := by
  have kept : (new.relationFields.map (·.name)).contains e.sourceField =
      decide (new.RelatesBy e.sourceField) := by
    rw [Bool.eq_iff_iff, List.contains_iff_mem, decide_eq_true_iff, Model.relatesBy_iff_mem]
  rw [followEdge, kept]
  simp [Edge.renamed]

theorem followEdge_eq_some_iff {e e' : Edge} :
    followEdge name new e = some e' ↔
      (e.source = name → new.RelatesBy e.sourceField) ∧ e.renamed name new.name = e' := by
  rw [followEdge_eq]
  split
  · rename_i dropped
    simp [dropped.1, dropped.2]
  · rename_i notDropped
    have kept : e.source = name → new.RelatesBy e.sourceField := fun leaves =>
      Decidable.byContradiction fun absent => notDropped ⟨leaves, absent⟩
    rw [Option.some.injEq, and_iff_right kept]

/-- The edges of a schema with a model replaced. -/
theorem mem_edges_replaceModel_iff {e' : Edge} :
    e' ∈ (s.replaceModel name new).edges ↔
      ∃ e ∈ s.edges, (e.source = name → new.RelatesBy e.sourceField) ∧
        e.renamed name new.name = e' := by
  simp only [replaceModel, List.mem_filterMap, followEdge_eq_some_iff]

/-- The models of a schema with a model replaced. -/
theorem mem_models_replaceModel_iff {k : Model} :
    k ∈ (s.replaceModel name new).models ↔
      (k ∈ s.models ∧ k.name ≠ name) ∨ (name ∈ s.modelNames ∧ k = new) := by
  simp only [replaceModel, List.mem_map, modelNames]
  constructor
  · rintro ⟨m, member, rfl⟩
    by_cases replaced : m.name = name
    · exact .inr ⟨⟨m, member, replaced⟩, if_pos replaced⟩
    · rw [if_neg replaced]
      exact .inl ⟨member, replaced⟩
  · rintro (⟨member, other⟩ | ⟨⟨m, member, replaced⟩, rfl⟩)
    · exact ⟨k, member, if_neg other⟩
    · exact ⟨m, member, if_pos replaced⟩

end Schema

end SchemaDiagram
