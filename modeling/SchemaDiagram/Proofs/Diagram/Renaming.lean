/-
# SchemaDiagram.Proofs.Diagram.Renaming -- which edges follow a renamed model

A renamed model keeps its fields, and every edge that leaves it from a relation
field follows the name.  So all edges follow exactly if none leaves the model from
anything else (`edges_rename_iff`).  A connection may do that, and the next renaming
drops it (`connected_edge_lost`).

A schema is `Anchored` if every edge leaves some model from a relation field of it.
Each change keeps a schema anchored, a connection if it is drawn from a relation
field (`anchored_run`).
-/
import Mathlib.Data.List.Basic
import SchemaDiagram.Proofs.Diagram.Change

namespace SchemaDiagram

set_option autoImplicit false

/-- No edge is lost exactly if each that leaves the replaced model does so from a
relation field of the new one. -/
theorem Schema.edges_replaceModel_eq_map_iff {s : Schema} {name : String} {new : Model} :
    (s.replaceModel name new).edges = s.edges.map (Edge.renamed name new.name) ↔
      ∀ e ∈ s.edges, e.source = name → new.RelatesBy e.sourceField := by
  simp only [replaceModel, List.filterMap_eq_map_iff_forall_eq_some, followEdge_eq_some_iff,
    and_true]

/-- **When no edge is lost by renaming**: exactly if each edge that leaves the model
does so from a relation field of it. -/
theorem Diagram.edges_rename_iff (d : Diagram) (m : Model) (name : String) :
    (d.replaceModel m.name (m.rename name)).schema.edges =
        d.schema.edges.map (Edge.renamed m.name name) ↔
      ∀ e ∈ d.schema.edges, e.source = m.name → m.RelatesBy e.sourceField := by
  rw [replaceModel]
  exact Schema.edges_replaceModel_eq_map_iff

/-- An edge is connected to a model without fields, which is the only one of its
name.  Renaming that model drops the edge. -/
theorem Diagram.connected_edge_lost :
    let m : Model := { name := "A" }
    let d := (ofText "model A \x7b\n\x7d\nmodel B \x7b\n\x7d" {}).run
      [.connect "A" (some "owner-source") "B" none]
    (m ∈ d.schema.models ∧ ∀ k ∈ d.schema.models, k.name = m.name → k = m) ∧
      (d.replaceModel m.name (m.rename "N")).schema.edges ≠
        d.schema.edges.map (Edge.renamed m.name "N") := by
  decide +kernel

/-! ## Anchored schemas -/

/-- Some model of that name has a relation field of that name. -/
def Schema.HasAnchor (s : Schema) (model field : String) : Prop :=
  ∃ m ∈ s.models, m.name = model ∧ m.RelatesBy field

/-- Each edge leaves a model from a relation field of it. -/
def Schema.Anchored (s : Schema) : Prop :=
  ∀ e ∈ s.edges, s.HasAnchor e.source e.sourceField

namespace Schema

variable {s : Schema}

theorem anchored_removeModel (anchored : s.Anchored) (name : String) :
    (s.removeModel name).Anchored := by
  intro e member
  simp only [removeModel, List.mem_filter, Bool.and_eq_true, bne_iff_ne] at member
  obtain ⟨inside, source, -⟩ := member
  obtain ⟨m, found, named, relates⟩ := anchored e inside
  exact ⟨m, List.mem_filter.2 ⟨found, bne_iff_ne.2 (named ▸ source)⟩, named, relates⟩

/-- Whatever the new model is, the edges that stay are anchored. -/
theorem anchored_replaceModel (anchored : s.Anchored) (name : String) (new : Model) :
    (s.replaceModel name new).Anchored := by
  intro e' member
  obtain ⟨e, inside, kept, rfl⟩ := mem_edges_replaceModel_iff.1 member
  obtain ⟨m, found, named, relates⟩ := anchored e inside
  by_cases leaves : e.source = name
  · have replaced : name ∈ s.modelNames := leaves ▸ named ▸ List.mem_map_of_mem found
    exact ⟨new, mem_models_replaceModel_iff.2 (.inr ⟨replaced, rfl⟩),
      by simp [Edge.renamed, leaves], kept leaves⟩
  · exact ⟨m, mem_models_replaceModel_iff.2 (.inl ⟨found, named ▸ leaves⟩),
      by simp [Edge.renamed, leaves, named], relates⟩

theorem anchored_addModel (anchored : s.Anchored) (m : Model) : (s.addModel m).Anchored := by
  intro e member
  obtain ⟨k, found, anchor⟩ := anchored e member
  exact ⟨k, List.mem_append_left _ found, anchor⟩

theorem anchored_connect {s' : Schema} {source target : String}
    {sourceHandle targetHandle : Option String} (anchored : s.Anchored)
    (connected : s.connect source sourceHandle target targetHandle = .ok s')
    (fromField : s.HasAnchor source ((fieldOfHandle "-source" sourceHandle).getD "")) :
    s'.Anchored := by
  obtain ⟨-, ⟨-, rfl⟩ | ⟨-, rfl⟩⟩ := connect_eq_ok connected
  · exact anchored
  · intro e member
    rcases List.mem_append.1 member with earlier | last
    · exact anchored e earlier
    · rw [List.mem_singleton.1 last]
      exact fromField

theorem anchored_asWritten (anchored : s.Anchored) : s.asWritten.Anchored := by
  intro e' member
  obtain ⟨e, inside, rfl⟩ := List.mem_map.1 member
  obtain ⟨m, found, named, f, field, relates⟩ := anchored e inside
  exact ⟨m.asWritten, List.mem_map_of_mem found, named, f.asWritten, List.mem_map_of_mem field,
    relates⟩

end Schema

namespace Diagram

/-- A connection is drawn from a relation field; other changes may be any. -/
def DrawsFromField (d : Diagram) : Change → Prop
  | .connect source sourceHandle _ _ =>
      d.schema.HasAnchor source ((fieldOfHandle "-source" sourceHandle).getD "")
  | _ => True

theorem anchored_after {d : Diagram} {c : Change} (anchored : d.schema.Anchored)
    (draws : d.DrawsFromField c) : (d.after c).schema.Anchored := by
  cases c with
  | removeModel name => exact Schema.anchored_removeModel anchored name
  | replaceModel name new => exact Schema.anchored_replaceModel anchored name new
  | addModel m => exact Schema.anchored_addModel anchored _
  | connect source sourceHandle target targetHandle =>
      exact after_connect_induction anchored fun _ connected =>
        Schema.anchored_connect anchored connected draws
  | reload grid =>
      rw [after_reload]
      exact Schema.anchored_asWritten anchored

/-- A run keeps a schema anchored if each of its connections is drawn from a
relation field of the diagram at that time. -/
theorem anchored_run {d : Diagram} {changes : List Change} (anchored : d.schema.Anchored)
    (draws : Along DrawsFromField d changes) : (d.run changes).schema.Anchored :=
  run_induction_along (P := fun e => e.schema.Anchored) anchored draws
    fun _ _ anchored draws => anchored_after anchored draws

end Diagram

end SchemaDiagram
