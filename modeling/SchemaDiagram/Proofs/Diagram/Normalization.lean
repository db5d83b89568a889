/-
# SchemaDiagram.Proofs.Diagram.Normalization -- reading and writing a document

A document that is read and written again is in its normal form (`normalForm`):
whatever it left out is there, and what no one reads is gone.

The flag of a field decides whether its target is read, so in what is read only
relation fields refer to models (`refersByFlag_of_ofDocument`).  The document of such
a schema is its own normal form (`normalForm_toDocument`): what reading changes of an
edge, a target field without name, is not to be seen in the document.  So normalizing
twice is normalizing once (`normalForm_idem`).

The schema text shows neither flags nor edges.  It is the same whether a text is
printed at once or by way of its document (`render_by_way_of_document`).
-/
import SchemaDiagram.Proofs.Diagram.Written
import SchemaDiagram.Schema.Printer

namespace SchemaDiagram

set_option autoImplicit false

open Value

/-! ## What is read -/

/-- Whether a field that is read refers to a model is up to its flag. -/
theorem Field.refersByFlag_ofValue (v : Value) : (Field.ofValue v).RefersByFlag := by
  rw [Field.ofValue]
  cases v.get? "isRelation" with
  | none => exact Field.refersByFlag_ofParts _ _ _ _
  | some flag =>
      intro unflagged
      simp only at unflagged ⊢
      rw [unflagged]
      rfl

theorem Model.refersByFlag_ofNode (v : Value) : (Model.ofNode v).RefersByFlag := by
  intro f member
  obtain ⟨w, -, rfl⟩ := List.mem_map.1 member
  exact Field.refersByFlag_ofValue w

theorem Schema.refersByFlag_ofValue {document : Value} {s : Schema}
    (read : Schema.ofValue document = .ok s) : s.RefersByFlag := by
  obtain ⟨edges, -, rfl⟩ := map_eq_ok_iff.1 read
  intro m member
  obtain ⟨v, -, rfl⟩ := List.mem_map.1 member
  exact Model.refersByFlag_ofNode v

namespace Diagram

variable {d : Diagram} {document : Value} {grid : Grid}

theorem ofDocument_eq_ok_iff :
    ofDocument document grid = .ok d ↔ (checkDocument document).valid = true ∧
      ∃ schema, Schema.ofValue document = .ok schema ∧ { schema, grid } = d := by
  rw [ofDocument]
  cases (checkDocument document).valid with
  | false => simp
  | true => simp [map_eq_ok_iff]

/-- What is read refers by its flags, and lies on the grid that it is read for. -/
theorem refersByFlag_of_ofDocument (read : ofDocument document grid = .ok d) :
    d.schema.RefersByFlag ∧ d.grid = grid := by
  obtain ⟨-, schema, parts, rfl⟩ := ofDocument_eq_ok_iff.1 read
  exact ⟨Schema.refersByFlag_ofValue parts, rfl⟩

end Diagram

/-! ## Normal forms -/

/-- What reading changes of an edge cannot be seen in its document. -/
theorem Edge.toValue_asWritten (e : Edge) : e.asWritten.toValue = e.toValue := by
  have unchanged : e.asWritten.targetHandle = e.targetHandle ∧
      e.asWritten.shownTargetField = e.shownTargetField := by
    cases found : e.targetField with
    | none => simp [asWritten, targetHandle, shownTargetField, found]
    | some name =>
        by_cases unnamed : name = "" <;>
          simp [asWritten, targetHandle, shownTargetField, found, unnamed, Option.filter]
  rw [toValue, unchanged.1, unchanged.2]
  rfl

namespace Diagram

variable {d : Diagram} {document normal : Value} {grid : Grid}

/-- The document that is written for what a document is read as. -/
def normalForm (document : Value) (grid : Grid) : Except DocumentError Value :=
  (ofDocument document grid).map toDocument

theorem toDocument_asWritten (refers : d.schema.RefersByFlag) :
    toDocument { d with schema := d.schema.asWritten } = d.toDocument := by
  have edges : d.schema.asWritten.edges.map (·.toValue) = d.schema.edges.map (·.toValue) := by
    rw [Schema.asWritten, List.map_map]
    exact List.map_congr_left fun e _ => Edge.toValue_asWritten e
  simp only [toDocument, refers.models_asWritten, edges]
  rfl

/-- The document of a schema that refers by its flags is in normal form. -/
theorem normalForm_toDocument (refers : d.schema.RefersByFlag) :
    normalForm d.toDocument d.grid = .ok d.toDocument := by
  rw [normalForm, ofDocument_toDocument, Except.map, toDocument_asWritten refers]

/-- **Normalization is idempotent**: a normal form is read, and written as it is. -/
theorem normalForm_idem (normalized : normalForm document grid = .ok normal) :
    normalForm normal grid = .ok normal := by
  obtain ⟨d, read, rfl⟩ := map_eq_ok_iff.1 normalized
  obtain ⟨refers, rfl⟩ := refersByFlag_of_ofDocument read
  exact normalForm_toDocument refers

/-- A document that leaves out the flag of a field, the data and style of one edge and
the handle of another, whose target field is told by its handle alone, with members
that no one reads. -/
theorem normalForm_idem_sparse :
    let document : Value := .object
      [("nodes", .list [.object
        [("id", .text "n"), ("data", .object
          [("name", .text "A"), ("fields", .list [.object
            [("name", .text "b"), ("type", .text "B?"), ("note", .null)]])])]]),
        ("edges", .list
          [.object [("id", .text "e"), ("source", .text "A"), ("target", .text "B")],
            .object
              [("id", .text "f"), ("source", .text "A"), ("target", .text "B"),
                ("targetHandle", .text "a"), ("data", .object
                  [("targetField", .text "c"), ("relationDetails", .object
                    [("onDelete", .null), ("because", .int 3)])])],
            .object
              [("id", .text "g"), ("source", .text "A"), ("target", .text "B"),
                ("targetHandle", .text "-target")]])]
    let edge (id color : String) (targetField : Option String) : Edge :=
      { id, source := "A", target := "B", sourceField := "", targetField,
        cardinality := .oneToOne, color }
    let d : Diagram := { schema :=
      { models := [{ name := "A", fields := [.derived "b" "B?" []] }]
        edges := [edge "e" "#6366f1" none, edge "f" "#8b5cf6" (some "a"),
          edge "g" "#ec4899" (some "")] } }
    normalForm document .standard = .ok d.toDocument ∧
      normalForm d.toDocument .standard = .ok d.toDocument := by
  intro document edge d
  have read : (ofDocument document .standard).toOption = some d := by decide +kernel
  have normalized : normalForm document .standard = .ok d.toDocument := by
    cases result : ofDocument document .standard with
    | ok back =>
        rw [result, Except.toOption, Option.some.injEq] at read
        rw [normalForm, result, read]
        rfl
    | error e =>
        rw [result] at read
        cases read
  exact ⟨normalized, normalForm_idem normalized⟩

end Diagram

/-! ## Schema texts by way of documents -/

theorem Schema.render_asWritten (preamble : Preamble) (s : Schema) :
    s.asWritten.render preamble = s.render preamble := by
  have field (f : Field) : f.asWritten.render = f.render := rfl
  have model (m : Model) : m.asWritten.render = m.render := by
    simp only [Model.render, Model.asWritten, List.map_map, Function.comp_def, field]
  have models : s.asWritten.models.map (·.render) = s.models.map (·.render) := by
    simp only [asWritten, List.map_map, Function.comp_def, model]
  rw [render, render, renderSchema, renderSchema, models]
  rfl

namespace Diagram

/-- The schema text of a diagram is that of its document. -/
theorem render_of_read {d back : Diagram} {grid : Grid}
    (read : ofDocument d.toDocument grid = .ok back) (preamble : Preamble) :
    back.schema.render preamble = d.schema.render preamble := by
  rw [ofDocument_toDocument] at read
  cases read
  exact Schema.render_asWritten preamble d.schema

/-- **A text is printed as its document is**: the document of a text passes the check
and is read for any grid, and what is read has the schema text of the text itself. -/
theorem render_by_way_of_document (text : String) (settings : Settings) (preamble : Preamble)
    (grid : Grid) :
    let d := ofText text settings
    (checkDocument d.toDocument).valid = true ∧
      ∃ back, ofDocument d.toDocument grid = .ok back ∧
        back.schema.render preamble = d.schema.render preamble := by
  intro d
  have read := ofDocument_toDocument d grid
  exact ⟨valid_toDocument d, _, read, render_of_read read preamble⟩

end Diagram

end SchemaDiagram
