/-
# SchemaDiagram.Proofs.Diagram.EdgeIds -- when the ids of edges are distinct

An edge is drawn with an id of its key and its number.  No digit is a dash, so an id
tells both (`Relation.id_edge_inj`).  Relations are numbered in turn, so no two edges
of a text share an id (`drawn_ids_nodup`).

An edge keeps its id when an end of it follows the new name of a model.  From then on
its old key is free, and a connection is numbered by the edges that are there, not by
those that were drawn.  So it can be drawn with an id that an edge already has
(`connection_reuses_id`).  No other change does so: the ids stay distinct on the way
of a run exactly if no connection of it reuses one, and none does as long as no edge
follows a new name (`distinctIds_run_iff`).
-/
import SchemaDiagram.Proofs.Diagram.Change
import SchemaDiagram.Proofs.Schema.Drawing

namespace SchemaDiagram

set_option autoImplicit false

/-! ## Ids -/

/-- An id tells the key and the number that the edge was drawn with. -/
theorem Relation.id_edge_inj {r q : Relation} {i j : Nat} :
    (r.edge i).id = (q.edge j).id ↔ r.key = q.key ∧ i = j := by
  constructor
  · intro same
    have noDash (n : Nat) : '-' ∉ (Text.decimal n).toList := fun dash =>
      absurd (Text.isDigit_of_mem_decimal dash) (by decide)
    have parts : r.key.toList ++ '-' :: (Text.decimal i).toList =
        q.key.toList ++ '-' :: (Text.decimal j).toList := by
      simpa [Relation.edge] using congrArg String.toList same
    obtain ⟨keys, numbers⟩ := Text.eq_of_last_piece (noDash i) (noDash j) parts
    exact ⟨String.toList_inj.1 keys, Text.decimal_inj.1 (String.toList_inj.1 numbers)⟩
  · rintro ⟨keys, rfl⟩
    rw [Relation.edge, Relation.edge, keys]

namespace Edge

variable {relations : List Relation}

/-- Each edge of relations is drawn under a number. -/
theorem exists_number_of_mem {e : Edge} (member : e ∈ ofRelations relations) :
    ∃ n, e = e.toRelation.edge n := by
  rw [ofRelations_eq] at member
  obtain ⟨p, -, rfl⟩ := List.mem_map.1 member
  exact ⟨p.2, rfl⟩

/-- No two edges have one number, so none have one id. -/
theorem nodup_ids_ofRelations : ((ofRelations relations).map (·.id)).Nodup := by
  have places : ((Relation.firstPlaces Relation.key relations).map (·.2)).Nodup :=
    Relation.nodup_places_firstPlaces
  rw [ofRelations_eq, List.map_map, List.Nodup, List.pairwise_map]
  rw [List.Nodup, List.pairwise_map] at places
  exact places.imp fun different same => different (Relation.id_edge_inj.1 same).2

end Edge

namespace Schema

def edgeIds (s : Schema) : List String :=
  s.edges.map (·.id)

/-- No two edges have one id. -/
def DistinctIds (s : Schema) : Prop :=
  s.edgeIds.Nodup

instance (s : Schema) : Decidable s.DistinctIds :=
  inferInstanceAs (Decidable s.edgeIds.Nodup)

/-- Each edge has an id of its own key. -/
def IdsByKey (s : Schema) : Prop :=
  ∀ e ∈ s.edges, ∃ n, e.id = (e.toRelation.edge n).id

variable {s : Schema}

theorem distinctIds_ofText (text : String) (resolveBackFields : Bool) :
    (ofText text resolveBackFields).DistinctIds :=
  Edge.nodup_ids_ofRelations

/-- **Edges are drawn under distinct ids**, whatever names there are: for every list of
relations, and so for every text. -/
theorem drawn_ids_nodup :
    (∀ relations : List Relation, ((Edge.ofRelations relations).map (·.id)).Nodup) ∧
      ∀ (text : String) (resolveBackFields : Bool), (ofText text resolveBackFields).DistinctIds :=
  ⟨fun _ => Edge.nodup_ids_ofRelations, distinctIds_ofText⟩

theorem idsByKey_ofText (text : String) (resolveBackFields : Bool) :
    (ofText text resolveBackFields).IdsByKey := by
  intro e member
  obtain ⟨n, numbered⟩ := Edge.exists_number_of_mem member
  exact ⟨n, congrArg Edge.id numbered⟩

/-! ## Changes to the models -/

theorem edgeIds_removeModel_sublist (name : String) :
    (s.removeModel name).edgeIds.Sublist s.edgeIds :=
  List.filter_sublist.map _

/-- An edge that follows a new name keeps its id. -/
theorem edgeIds_replaceModel_sublist (name : String) (new : Model) :
    (s.replaceModel name new).edgeIds.Sublist s.edgeIds := by
  have each (edges : List Edge) :
      ((edges.filterMap (followEdge name new)).map (·.id)).Sublist (edges.map (·.id)) := by
    induction edges with
    | nil => exact List.Sublist.refl _
    | cons e rest ih =>
        cases followed : followEdge name new e with
        | none =>
            rw [List.filterMap_cons_none followed]
            exact ih.cons _
        | some e' =>
            obtain ⟨-, rfl⟩ := followEdge_eq_some_iff.1 followed
            rw [List.filterMap_cons_some followed]
            exact ih.cons_cons _
  exact each s.edges

theorem edgeIds_asWritten : s.asWritten.edgeIds = s.edgeIds := by
  simp [edgeIds, asWritten, Edge.asWritten, Function.comp_def]

theorem idsByKey_replaceModel {name : String} {new : Model} (byKey : s.IdsByKey)
    (unmoved : new.name = name ∨ ∀ e ∈ s.edges, e.source ≠ name ∧ e.target ≠ name) :
    (s.replaceModel name new).IdsByKey := by
  intro e' member
  obtain ⟨e, inside, -, rfl⟩ := mem_edges_replaceModel_iff.1 member
  rw [Edge.renamed_eq_self (unmoved.imp_right fun apart => apart e inside)]
  exact byKey e inside

theorem idsByKey_asWritten (byKey : s.IdsByKey) : s.asWritten.IdsByKey := by
  intro e' member
  obtain ⟨e, inside, rfl⟩ := List.mem_map.1 member
  exact byKey e inside

/-! ## Connections -/

/-- A connection draws the relation: it joins two models, and no edge has its key. -/
def Draws (s : Schema) (r : Relation) : Prop :=
  (r.source ∈ s.modelNames ∧ r.target ∈ s.modelNames) ∧ ∀ e ∈ s.edges, e.key ≠ r.key

theorem any_key_eq_false_iff {r : Relation} :
    s.edges.any (·.key == r.key) = false ↔ ∀ e ∈ s.edges, e.key ≠ r.key := by
  simp

theorem connect_of_draws {source target : String} {sourceHandle targetHandle : Option String}
    (draws : s.Draws (connection source sourceHandle target targetHandle)) :
    let r := connection source sourceHandle target targetHandle
    s.connect source sourceHandle target targetHandle =
      .ok { s with edges := s.edges ++ [r.edge s.edges.length] } := by
  intro r
  have known : source ∈ s.modelNames ∧ target ∈ s.modelNames := draws.1
  have fresh : ¬ ∃ e ∈ s.edges, e.key = r.key := fun ⟨e, inside, same⟩ =>
    draws.2 e inside same
  rw [connect_of_known known, if_neg fresh]

theorem distinctIds_append_iff {e : Edge} :
    ({ s with edges := s.edges ++ [e] } : Schema).DistinctIds ↔
      s.DistinctIds ∧ e.id ∉ s.edgeIds := by
  simp only [DistinctIds, edgeIds, List.map_append, List.map_singleton]
  rw [← List.concat_eq_append, List.nodup_concat, and_comm]

theorem idsByKey_append {r : Relation} (byKey : s.IdsByKey) (n : Nat) :
    ({ s with edges := s.edges ++ [r.edge n] } : Schema).IdsByKey := by
  intro e member
  rcases List.mem_append.1 member with earlier | last
  · exact byKey e earlier
  · rw [List.mem_singleton.1 last]
    exact ⟨n, rfl⟩

end Schema

namespace Diagram

variable {d : Diagram}

section Connect

variable {source target : String} {sourceHandle targetHandle : Option String}

theorem after_connect_of_draws
    (draws : d.schema.Draws (Schema.connection source sourceHandle target targetHandle)) :
    let r := Schema.connection source sourceHandle target targetHandle
    (d.after (.connect source sourceHandle target targetHandle)).schema =
      { d.schema with edges := d.schema.edges ++ [r.edge d.schema.edges.length] } := by
  rw [after, change, connect, Schema.connect_of_draws draws]
  rfl

theorem after_connect_of_not_draws
    (idle : ¬ d.schema.Draws (Schema.connection source sourceHandle target targetHandle)) :
    (d.after (.connect source sourceHandle target targetHandle)).schema = d.schema := by
  refine after_connect_induction (P := (· = d.schema)) rfl fun s' connected => ?_
  obtain ⟨names, ⟨-, same⟩ | ⟨fresh, -⟩⟩ := Schema.connect_eq_ok connected
  · exact same
  · exact absurd ⟨names, Schema.any_key_eq_false_iff.1 fresh⟩ idle

end Connect

/-! ## One change -/

/-- The change draws an edge with an id that an edge of the diagram has. -/
def ReusesId (d : Diagram) : Change → Prop
  | .connect source sourceHandle target targetHandle =>
      let r := Schema.connection source sourceHandle target targetHandle
      d.schema.Draws r ∧ (r.edge d.schema.edges.length).id ∈ d.schema.edgeIds
  | _ => False

/-- No edge of the diagram follows a new name. -/
def KeepsEnds (d : Diagram) : Change → Prop
  | .replaceModel name new =>
      new.name = name ∨ ∀ e ∈ d.schema.edges, e.source ≠ name ∧ e.target ≠ name
  | _ => True

/-- Only a connection can bring a diagram an id that it does not have. -/
theorem distinctIds_after_iff (distinct : d.schema.DistinctIds) (c : Change) :
    (d.after c).schema.DistinctIds ↔ ¬ d.ReusesId c := by
  have kept (fewer : (d.after c).schema.edgeIds.Sublist d.schema.edgeIds) :
      (d.after c).schema.DistinctIds := fewer.nodup distinct
  cases c with
  | removeModel name =>
      exact iff_of_true (kept (Schema.edgeIds_removeModel_sublist name)) id
  | replaceModel name new =>
      exact iff_of_true (kept (Schema.edgeIds_replaceModel_sublist name new)) id
  | addModel m => exact iff_of_true (kept (List.Sublist.refl _)) id
  | connect source sourceHandle target targetHandle =>
      by_cases draws : d.schema.Draws (Schema.connection source sourceHandle target targetHandle)
      · rw [after_connect_of_draws draws, Schema.distinctIds_append_iff, and_iff_right distinct,
          ReusesId, and_iff_right draws]
      · rw [after_connect_of_not_draws draws]
        exact iff_of_true distinct fun reuses => draws reuses.1
  | reload grid =>
      refine iff_of_true (kept ?_) id
      rw [after_reload, Schema.edgeIds_asWritten]

theorem idsByKey_after (byKey : d.schema.IdsByKey) {c : Change} (keeps : d.KeepsEnds c) :
    (d.after c).schema.IdsByKey := by
  cases c with
  | removeModel name => exact fun e member => byKey e (List.mem_of_mem_filter member)
  | replaceModel name new => exact Schema.idsByKey_replaceModel byKey keeps
  | addModel m => exact byKey
  | connect source sourceHandle target targetHandle =>
      by_cases draws : d.schema.Draws (Schema.connection source sourceHandle target targetHandle)
      · rw [after_connect_of_draws draws]
        exact Schema.idsByKey_append byKey _
      · rw [after_connect_of_not_draws draws]
        exact byKey
  | reload grid =>
      rw [after_reload]
      exact Schema.idsByKey_asWritten byKey

/-- What is drawn has a key that no edge has, so no edge has its id either. -/
theorem not_reusesId (byKey : d.schema.IdsByKey) (c : Change) : ¬ d.ReusesId c := by
  cases c with
  | connect source sourceHandle target targetHandle =>
      rintro ⟨⟨-, fresh⟩, taken⟩
      obtain ⟨e, inside, same⟩ := List.mem_map.1 taken
      obtain ⟨n, numbered⟩ := byKey e inside
      rw [numbered, Relation.id_edge_inj] at same
      exact fresh e inside same.1
  | _ => exact id

/-! ## Runs -/

theorem along_not_reusesId {changes : List Change} (byKey : d.schema.IdsByKey)
    (keeps : Along KeepsEnds d changes) : Along (fun e c => ¬ e.ReusesId c) d changes := by
  induction changes generalizing d with
  | nil => trivial
  | cons c rest ih =>
      exact ⟨not_reusesId byKey c, ih (idsByKey_after byKey keeps.1) keeps.2⟩

/-- **When ids stay distinct.**  On the way of a run from a text the ids of the edges
are distinct exactly if no connection reuses one, and they are so if no edge follows
a new name. -/
theorem distinctIds_run_iff (text : String) (settings : Settings) (changes : List Change) :
    let start := ofText text settings
    ((∀ before, before <+: changes → (start.run before).schema.DistinctIds) ↔
        Along (fun d c => ¬ d.ReusesId c) start changes) ∧
      (Along KeepsEnds start changes →
        ∀ before, before <+: changes → (start.run before).schema.DistinctIds) := by
  intro start
  have distinct : start.schema.DistinctIds := Schema.distinctIds_ofText _ _
  have exactly :
      (∀ before, before <+: changes → (start.run before).schema.DistinctIds) ↔
        Along (fun d c => ¬ d.ReusesId c) start changes :=
    forall_prefix_iff_along (P := fun e => e.schema.DistinctIds) distinct
      fun _ c distinct => distinctIds_after_iff distinct c
  exact ⟨exactly, fun keeps =>
    exactly.2 (along_not_reusesId (Schema.idsByKey_ofText _ _) keeps)⟩

/-- The second edge is drawn from `A` to `B`, and follows when `B` becomes `C`.  Then
the first one goes, and a connection to a new `B` is drawn as the second edge again. -/
theorem connection_reuses_id :
    let text := "model A \x7b\n  x X\n  b B\n\x7d\nmodel B \x7b\n\x7d\nmodel X \x7b\n\x7d"
    let d := (ofText text {}).run
      [.replaceModel "B" { name := "C" }, .removeModel "X", .addModel (some { name := "B" }),
        .connect "A" (some "b-source") "B" none]
    d.schema.edges.map (·.target) = ["C", "B"] ∧ ¬ d.schema.DistinctIds := by
  decide +kernel

end Diagram

end SchemaDiagram
