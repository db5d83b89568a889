/-
# SchemaDiagram.Proofs.Diagram.AbsentModel -- replacing a model that is not there

To replace a model by a name that no model has leaves the models as they are.  It does
not always leave the edges: they follow the new name from wherever the old one stands at
an end, and an edge may end at an enum or at a type that nothing declares.  So an edge to
an enum comes to point at a model that is not in the diagram (`edge_to_enum_follows`).

Nothing changes exactly if each edge that touches the name finds the same name and, where
it leaves, its relation field in the new model (`replaceModel_absent_iff`).
-/
import Mathlib.Data.List.Basic
import SchemaDiagram.Proofs.Diagram.Change

namespace SchemaDiagram

set_option autoImplicit false

/-- An edge that touches the old name stays as it is only if that is the new one too. -/
theorem Edge.renamed_eq_self_iff {old new : String} {e : Edge} :
    e.renamed old new = e ↔ (e.Touches old → new = old) := by
  constructor
  · rintro same (leaves | ends)
    · have source : (if e.source = old then new else e.source) = e.source :=
        congrArg (·.source) same
      rwa [if_pos leaves, leaves] at source
    · have target : (if e.target = old then new else e.target) = e.target :=
        congrArg (·.target) same
      rwa [if_pos ends, ends] at target
  · intro kept
    by_cases touched : e.Touches old
    · exact renamed_eq_self (.inl (kept touched))
    · exact renamed_eq_self (.inr (not_or.1 touched))

namespace Schema

variable {s : Schema} {name : String}

theorem models_replaceModel_of_absent (absent : name ∉ s.modelNames) (new : Model) :
    (s.replaceModel name new).models = s.models := by
  have kept : ∀ m ∈ s.models, (if m.name = name then new else m) = id m := by
    intro m inside
    have other : m.name ≠ name := fun named => absent (named ▸ List.mem_map_of_mem inside)
    exact if_neg other
  rw [replaceModel, List.map_congr_left kept, List.map_id]

/-- The edge comes out of a replacement of the model `name` as it was. -/
theorem followEdge_eq_self_iff {new : Model} {e : Edge} :
    followEdge name new e = some e ↔
      (e.Touches name → new.name = name ∧ (e.source = name → new.RelatesBy e.sourceField)) := by
  rw [followEdge_eq_some_iff, Edge.renamed_eq_self_iff]
  constructor
  · exact fun ⟨relates, named⟩ touched => ⟨named touched, relates⟩
  · exact fun kept => ⟨fun leaves => (kept (.inl leaves)).2 leaves, fun touched => (kept touched).1⟩

theorem edges_replaceModel_eq_self_iff {new : Model} :
    (s.replaceModel name new).edges = s.edges ↔
      ∀ e ∈ s.edges, e.Touches name →
        new.name = name ∧ (e.source = name → new.RelatesBy e.sourceField) := by
  have unchanged : s.edges.filterMap (followEdge name new) = s.edges.map id ↔
      ∀ e ∈ s.edges, followEdge name new e = some e :=
    List.filterMap_eq_map_iff_forall_eq_some
  rw [List.map_id] at unchanged
  simp only [replaceModel, unchanged, followEdge_eq_self_iff]

end Schema

namespace Diagram

/-- **What replacing an absent model changes.**  The models and the enums stay.  The edges
stay exactly if the new model has the name that is asked for, wherever an edge touches that
name, and a relation field of the source field of each edge that leaves it. -/
theorem replaceModel_absent_iff {d : Diagram} {name : String}
    (absent : name ∉ d.schema.modelNames) (new : Model) :
    let after := d.replaceModel name new
    after.schema.models = d.schema.models ∧ after.schema.enums = d.schema.enums ∧
      (after.schema.edges = d.schema.edges ↔
        ∀ e ∈ d.schema.edges, e.Touches name →
          new.name = name ∧ (e.source = name → new.RelatesBy e.sourceField)) :=
  ⟨Schema.models_replaceModel_of_absent absent new, rfl, Schema.edges_replaceModel_eq_self_iff⟩

/-- An edge ends at an enum.  A model of that name leaves it alone; the enum is not the
model that edges leave. -/
theorem replaceModel_absent_of_enum :
    let d := ofText "model A \x7b\n  s S\n\x7d\nenum S \x7b\n\x7d" {}
    ("S" ∉ d.schema.modelNames ∧ d.schema.edges.map (·.target) = ["S"]) ∧
      (d.replaceModel "S" { name := "S" }).schema.edges = d.schema.edges := by
  intro d
  have absent : "S" ∉ d.schema.modelNames := by decide +kernel
  have ends : d.schema.edges.map (·.target) = ["S"] := by decide +kernel
  obtain ⟨-, -, edges⟩ := replaceModel_absent_iff absent { name := "S" }
  refine ⟨⟨absent, ends⟩, edges.2 fun e inside _ => ⟨rfl, ?_⟩⟩
  revert e
  decide +kernel

/-- The enum of the same diagram is replaced by a model of another name.  There is no model
of either name, but the edge follows. -/
theorem edge_to_enum_follows :
    let d := ofText "model A \x7b\n  s S\n\x7d\nenum S \x7b\n\x7d" {}
    let after := (d.run []).replaceModel "S" { name := "B" }
    "S" ∉ d.schema.modelNames ∧ after.schema.edges ≠ d.schema.edges ∧
      "B" ∉ after.schema.modelNames ∧ after.schema.edges.map (·.target) = ["B"] := by
  decide +kernel

end Diagram

end SchemaDiagram
