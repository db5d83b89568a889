/-
# SchemaDiagram.Proofs.Diagram.Restoration -- documents restore diagrams

What a document tells of a field is all there is to it, if the field refers to the
model that its type names (`models_asWritten`).  The models of a text, new models and
edited ones have only such fields, so a run of changes made from them ends with a
diagram of such fields (`refersByType_run`).

Its document gives back the models and the enums as they are.  An edge comes back
with an empty target field as none, and otherwise as it is (`restored_run`).  A
handle that is nothing but its ending gives an edge such a target field
(`nameless_target_not_restored`).
-/
import SchemaDiagram.Proofs.Diagram.Change
import SchemaDiagram.Proofs.Schema.Editing

namespace SchemaDiagram

set_option autoImplicit false

/-! ## What is written as it is -/

theorem Field.RefersByType.refersByFlag {f : Field} (refers : f.RefersByType) : f.RefersByFlag := by
  intro unflagged
  rw [refers, unflagged]
  rfl

/-- Every field of every model refers by its type. -/
def Schema.RefersByType (s : Schema) : Prop :=
  ∀ m ∈ s.models, m.RefersByType

namespace Schema

variable {s : Schema}

theorem models_asWritten (refers : s.RefersByType) : s.asWritten.models = s.models :=
  RefersByFlag.models_asWritten fun m member f inside => (refers m member f inside).refersByFlag

/-! ## Changes -/

theorem refersByType_ofText (text : String) (resolveBackFields : Bool) :
    (ofText text resolveBackFields).RefersByType :=
  fun _ member => Model.Made.refersByType (.read member)

theorem refersByType_removeModel (refers : s.RefersByType) (name : String) :
    (s.removeModel name).RefersByType :=
  fun m member => refers m (List.mem_of_mem_filter member)

theorem refersByType_replaceModel (refers : s.RefersByType) (name : String) {new : Model}
    (made : new.Made) : (s.replaceModel name new).RefersByType := by
  intro m member
  rcases mem_models_replaceModel_iff.1 member with ⟨kept, -⟩ | ⟨-, rfl⟩
  · exact refers m kept
  · exact made.refersByType

theorem refersByType_addModel (refers : s.RefersByType) {m : Model} (made : m.Made) :
    (s.addModel m).RefersByType := by
  intro k member
  rcases List.mem_append.1 member with earlier | last
  · exact refers k earlier
  · rw [List.mem_singleton.1 last]
    exact made.refersByType

theorem refersByType_connect {s' : Schema} {source target : String}
    {sourceHandle targetHandle : Option String} (refers : s.RefersByType)
    (connected : s.connect source sourceHandle target targetHandle = .ok s') :
    s'.RefersByType := by
  obtain ⟨-, ⟨-, rfl⟩ | ⟨-, rfl⟩⟩ := connect_eq_ok connected
  · exact refers
  · exact refers

theorem refersByType_asWritten (refers : s.RefersByType) : s.asWritten.RefersByType := by
  intro m member
  rw [models_asWritten refers] at member
  exact refers m member

end Schema

/-- A model that the change puts into the diagram is one that texts and edits make. -/
def Change.Made : Change → Prop
  | .replaceModel _ new => new.Made
  | .addModel (some m) => m.Made
  | _ => True

namespace Diagram

theorem refersByType_after {d : Diagram} {c : Change} (refers : d.schema.RefersByType)
    (made : c.Made) : (d.after c).schema.RefersByType := by
  cases c with
  | removeModel name => exact Schema.refersByType_removeModel refers name
  | replaceModel name new => exact Schema.refersByType_replaceModel refers name made
  | addModel m =>
      cases m with
      | none => exact Schema.refersByType_addModel refers (.starter Model.starterName)
      | some m => exact Schema.refersByType_addModel refers made
  | connect source sourceHandle target targetHandle =>
      exact after_connect_induction refers fun _ connected =>
        Schema.refersByType_connect refers connected
  | reload grid =>
      rw [after_reload]
      exact Schema.refersByType_asWritten refers

theorem refersByType_run {d : Diagram} {changes : List Change} (refers : d.schema.RefersByType)
    (made : ∀ c ∈ changes, c.Made) : (d.run changes).schema.RefersByType :=
  run_induction (P := fun e => e.schema.RefersByType) refers
    fun c member _ refers => refersByType_after refers (made c member)

/-! ## Restoration -/

/-- **A document restores the diagram** that a run of changes has made from a text:
its models, its enums, its grid, and its edges but for target fields without a name,
which come back as none. -/
theorem restored_run (text : String) (settings : Settings) {changes : List Change}
    (made : ∀ c ∈ changes, c.Made) :
    let d := (ofText text settings).run changes
    ∃ back, ofDocument d.toDocument d.grid = .ok back ∧
      back.schema.models = d.schema.models ∧ back.schema.enums = d.schema.enums ∧
        back.grid = d.grid ∧ back.schema.edges = d.schema.edges.map (·.asWritten) ∧
          ((∀ e ∈ d.schema.edges, e.targetField ≠ some "") →
            back.schema.edges = d.schema.edges) := by
  intro d
  have refers : d.schema.RefersByType :=
    refersByType_run (Schema.refersByType_ofText _ _) made
  refine ⟨_, ofDocument_toDocument d d.grid, Schema.models_asWritten refers, rfl, rfl, rfl,
    fun named => ?_⟩
  rw [Schema.asWritten, List.map_congr_left fun e inside =>
    Edge.asWritten_eq_self (named e inside), List.map_id']

/-- A run with a connection, with a model that was read, edited twice and put back
under another name, and with a new model. -/
theorem restored_run_of_edits :
    let edited : Model := { name := "N", fields := [.derived "b" "B" ["@unique"]] }
    let changes : List Change :=
      [.connect "B" none "A" (some "b-target"), .replaceModel "A" edited,
        .addModel (some (.starter "C"))]
    let d := (ofText "model A \x7b\n  b B\n\x7d\nmodel B \x7b\n\x7d" {}).run changes
    (∀ c ∈ changes, c.Made) ∧ d.schema.edges.map (·.target) = ["B", "N"] ∧
      ∃ back, ofDocument d.toDocument d.grid = .ok back ∧
        back.schema.models = d.schema.models ∧ back.schema.edges = d.schema.edges := by
  intro edited changes d
  have read : { name := "A", fields := [.derived "b" "B" []] } ∈
      (Schema.ofText "model A \x7b\n  b B\n\x7d\nmodel B \x7b\n\x7d" false).models := by
    decide +kernel
  have toggled : Model.Edit.apply { name := "A", fields := [.derived "b" "B" []] }
      (.toggleModifier 0 (.text "@unique")) =
        .ok { name := "A", fields := [.derived "b" "B" ["@unique"]] } := by
    rfl
  have renamed : Model.Edit.apply { name := "A", fields := [.derived "b" "B" ["@unique"]] }
      (.rename "N") = .ok edited := rfl
  have made : ∀ c ∈ changes, c.Made := by
    simp only [changes, List.forall_mem_cons]
    exact ⟨trivial, .edited (.edited (.read read) toggled) renamed, .starter "C", by simp⟩
  obtain ⟨back, restored, models, -, -, -, edges⟩ :=
    restored_run "model A \x7b\n  b B\n\x7d\nmodel B \x7b\n\x7d" {} made
  have named : ∀ e ∈ d.schema.edges, e.targetField ≠ some "" := by decide +kernel
  exact ⟨made, by decide +kernel, back, restored, models, edges named⟩

/-- A target handle that is only its ending names no field.  The edge that it makes
comes back without a target field. -/
theorem nameless_target_not_restored :
    let d := (ofText "model A \x7b\n\x7d\nmodel B \x7b\n\x7d" {}).run
      [.connect "A" (some "b-source") "B" (some "-target")]
    ¬ ∃ back, ofDocument d.toDocument d.grid = .ok back ∧ back.schema.models = d.schema.models ∧
      back.schema.enums = d.schema.enums ∧ back.schema.edges = d.schema.edges := by
  intro d
  rw [ofDocument_toDocument]
  rintro ⟨_, ⟨⟩, -, -, same⟩
  revert same
  decide +kernel

end Diagram

end SchemaDiagram
