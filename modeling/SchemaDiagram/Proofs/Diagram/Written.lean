/-
# SchemaDiagram.Proofs.Diagram.Written -- reading a written document

Every document that is written for a diagram has the shape of documents
(`fits_toDocument`), so reading it back never fails.  What is read is the schema
`asWritten` (`ofDocument_toDocument`), which differs from the one before in two
places: a field that is no relation field refers to no model, and an edge whose
target field has no name ends at no field.  The first changes nothing in a schema that
`RefersByFlag`.

Both follow part by part: each part is written under the keys by which it is read,
and a handle gives back the field that it was made from.
-/
import SchemaDiagram.Diagram.Document
import SchemaDiagram.Proofs.Check.Shape
import SchemaDiagram.Proofs.Data.Checked

namespace SchemaDiagram

set_option autoImplicit false

open Value

/-! ## What a document tells -/

/-- Only a relation field refers to a model. -/
def Field.asWritten (f : Field) : Field :=
  { f with relationTo := if f.isRelation then f.relationTo else none }

def Model.asWritten (m : Model) : Model :=
  { m with fields := m.fields.map (·.asWritten) }

/-- A target field without a name is none. -/
def Edge.asWritten (e : Edge) : Edge :=
  { e with targetField := e.targetField.filter (· ≠ "") }

def Schema.asWritten (s : Schema) : Schema where
  models := s.models.map (·.asWritten)
  edges := s.edges.map (·.asWritten)
  enums := s.enums

/-! ## What is written as it is -/

/-- Only a relation field refers to a model. -/
def Field.RefersByFlag (f : Field) : Prop :=
  f.isRelation = false → f.relationTo = none

def Model.RefersByFlag (m : Model) : Prop :=
  ∀ f ∈ m.fields, f.RefersByFlag

def Schema.RefersByFlag (s : Schema) : Prop :=
  ∀ m ∈ s.models, m.RefersByFlag

theorem Field.refersByFlag_ofParts (name type : String) (modifiers : List String)
    (isRelation : Bool) : (Field.ofParts name type modifiers isRelation).RefersByFlag := by
  intro unflagged
  simp only [ofParts] at unflagged ⊢
  rw [unflagged]
  rfl

theorem Field.asWritten_eq_self_iff {f : Field} : f.asWritten = f ↔ f.RefersByFlag := by
  rw [RefersByFlag, asWritten]
  cases f with
  | mk name type modifiers isRelation relationTo =>
      cases isRelation with
      | true => simp
      | false => simp [eq_comm]

theorem Model.RefersByFlag.asWritten_eq_self {m : Model} (refers : m.RefersByFlag) :
    m.asWritten = m := by
  have each : ∀ f ∈ m.fields, f.asWritten = f := fun f member =>
    Field.asWritten_eq_self_iff.2 (refers f member)
  rw [asWritten, List.map_congr_left each, List.map_id']

theorem Schema.RefersByFlag.models_asWritten {s : Schema} (refers : s.RefersByFlag) :
    s.asWritten.models = s.models := by
  have each : ∀ m ∈ s.models, m.asWritten = m := fun m member =>
    (refers m member).asWritten_eq_self
  rw [asWritten, List.map_congr_left each, List.map_id']

theorem Edge.asWritten_eq_self {e : Edge} (named : e.targetField ≠ some "") :
    e.asWritten = e := by
  have kept : e.targetField.filter (· ≠ "") = e.targetField := by
    cases found : e.targetField with
    | none => rfl
    | some name =>
        rw [found, ne_eq, Option.some.injEq] at named
        simp [Option.filter, named]
  rw [asWritten, kept]

/-! ## Values -/

namespace Value

@[simp] theorem get?_object (key : Scalar) (members : Members) :
    get? key (.object members) = Members.get? key members := rfl

@[simp] theorem asText_text (s : String) : asText (some (.text s)) = s := rfl

@[simp] theorem asText?_text (s : String) : asText? (some (.text s)) = some s := rfl

@[simp] theorem asText?_ofText? (s : Option String) : asText? (some (ofText? s)) = s := by
  cases s <;> rfl

@[simp] theorem asItems_list (items : List Value) : asItems (some (.list items)) = items := rfl

@[simp] theorem asTexts_ofTexts (texts : List String) :
    asTexts (some (ofTexts texts)) = texts := by
  simp [asTexts, ofTexts, Function.comp_def]

@[simp] theorem asMembers_object (members : Members) :
    asMembers (some (.object members)) = members := rfl

@[simp] theorem asFlag_bool (b : Bool) : asFlag (some (.bool b)) = b := rfl

end Value

@[simp] theorem Members.get?_text_cons (key k : String) (v : Value) (rest : Members) :
    Members.get? key ((.text k, v) :: rest) =
      if k = key then some v else Members.get? key rest := by
  simp [Members.get?, Scalar.isSameKey, Scalar.keyForm]

/-! ## Handles -/

theorem cutEnd_append (s ending : String) : cutEnd ending (s ++ ending) = s := by
  have ends : Text.endsWith ending (s ++ ending) = true := by
    simp [Text.endsWith]
  have length : (s ++ ending).length - ending.length = s.toList.length := by
    rw [String.length_append, Nat.add_sub_cancel, String.length_toList]
  rw [cutEnd, if_pos ends, length, String.toList_append, List.take_left, String.ofList_toList]

theorem fieldOfHandle_append {ending : String} (named : ending ≠ "") (s : String) :
    fieldOfHandle ending (some (s ++ ending)) = some s := by
  have nonempty : s ++ ending ≠ "" := by simp [named]
  rw [fieldOfHandle, if_neg nonempty, cutEnd_append]

/-- The target handle gives back the target field, if that has a name. -/
theorem Edge.fieldOfHandle_targetHandle (e : Edge) :
    fieldOfHandle "-target" e.targetHandle = e.targetField.filter (· ≠ "") := by
  rw [targetHandle]
  cases e.targetField with
  | none => rfl
  | some name =>
      by_cases unnamed : name = ""
      · simp [unnamed, fieldOfHandle, Option.filter]
      · simp [unnamed, fieldOfHandle_append, Option.filter]

/-! ## Arguments of relations -/

theorem Checked.listOf_ofTexts (texts : List String) :
    Checked.listOf Checked.text (.ofTexts texts) = .ok texts :=
  Draft.itemsFrom_texts 0 texts

theorem Checked.textOrNull_ofText? (s : Option String) :
    Checked.textOrNull (.ofText? s) = .ok s := by
  cases s <;> rfl

/-- The details of a relation are written in camel case and read in snake case. -/
theorem snakeMembers_toValue (a : RelationArgs) :
    snakeMembers (asMembers (some a.toValue)) =
      .ok [(.text "fields", .ofTexts a.fields), (.text "references", .ofTexts a.references),
        (.text "on_delete", .ofText? a.onDelete), (.text "on_update", .ofText? a.onUpdate)] := by
  have keys : Text.snakeCase "fields" = "fields" ∧ Text.snakeCase "references" = "references" ∧
      Text.snakeCase "onDelete" = "on_delete" ∧ Text.snakeCase "onUpdate" = "on_update" := by
    decide +kernel
  obtain ⟨fields, references, onDelete, onUpdate⟩ := keys
  simp [snakeMembers, RelationArgs.toValue, snakeKey, fields, references, onDelete, onUpdate,
    Members.put, Scalar.isSameKey, Scalar.keyForm, bind, Except.bind, pure, Except.pure]

theorem RelationArgs.ofMembers_written (a : RelationArgs) :
    RelationArgs.ofMembers
      [(.text "fields", .ofTexts a.fields), (.text "references", .ofTexts a.references),
        (.text "on_delete", .ofText? a.onDelete), (.text "on_update", .ofText? a.onUpdate)] =
      .ok a := by
  simp [RelationArgs.ofMembers, Checked.member, Checked.listOf_ofTexts,
    Checked.textOrNull_ofText?, Checked.under, Checked.apply]

/-! ## Reading the parts back -/

theorem Field.ofValue_toValue (f : Field) : Field.ofValue f.toValue = f.asWritten := by
  simp [Field.ofValue, Field.toValue, Field.derived, Field.ofParts, Field.asWritten]

theorem Model.ofNode_toNode (m : Model) (p : Position) :
    Model.ofNode (m.toNode p) = m.asWritten := by
  simp [Model.ofNode, Model.toNode, Model.asWritten, Function.comp_def, Field.ofValue_toValue]

theorem Enumeration.ofValue_toValue (e : Enumeration) : Enumeration.ofValue e.toValue = e := by
  simp [Enumeration.ofValue, Enumeration.toValue]

theorem Edge.ofValue_toValue (e : Edge) (index : Nat) :
    Edge.ofValue index e.toValue = .ok e.asWritten := by
  simp [Edge.ofValue, Edge.toValue, snakeMembers_toValue, RelationArgs.ofMembers_written,
    Edge.fieldOfHandle_targetHandle, Cardinality.ofName?_name, Edge.asWritten, bind, Except.bind,
    pure, Except.pure]

theorem Edge.ofValuesFrom_map_toValue (edges : List Edge) (index : Nat) :
    Edge.ofValuesFrom index (edges.map (·.toValue)) = .ok (edges.map (·.asWritten)) := by
  induction edges generalizing index with
  | nil => rfl
  | cons e rest ih =>
      simp [Edge.ofValuesFrom, Edge.ofValue_toValue, ih, bind, Except.bind, pure, Except.pure]

theorem Grid.map_ofNode_nodesFrom (g : Grid) (models : List Model) (index : Nat) :
    (g.nodesFrom index models).map Model.ofNode = models.map (·.asWritten) := by
  induction models generalizing index with
  | nil => rfl
  | cons m rest ih => rw [nodesFrom, List.map_cons, Model.ofNode_toNode, ih, List.map_cons]

theorem Schema.ofValue_toDocument (d : Diagram) :
    Schema.ofValue d.toDocument = .ok d.schema.asWritten := by
  simp [Schema.ofValue, Diagram.toDocument, Edge.ofValuesFrom_map_toValue,
    Grid.map_ofNode_nodesFrom, Except.map, Schema.asWritten, Function.comp_def,
    Enumeration.ofValue_toValue]

/-! ## The shape of written documents -/

namespace Shape

@[simp] theorem fits_text (s : String) : Fits .text (.text s) :=
  fits_text_iff.2 ⟨s, rfl⟩

@[simp] theorem fits_ofText? (s : Option String) : Fits .textOrNull (ofText? s) := by
  rw [fits_textOrNull_iff]
  cases s with
  | none => exact .inl rfl
  | some s => exact .inr ⟨s, rfl⟩

@[simp] theorem fits_textOrNull_text (s : String) : Fits .textOrNull (.text s) :=
  fits_ofText? (some s)

@[simp] theorem fits_flag (b : Bool) : Fits .flag (.bool b) :=
  fits_flag_iff.2 ⟨b, rfl⟩

@[simp] theorem fits_number (n : Int) : Fits .number (.int n) :=
  fits_number_iff.2 (.inl ⟨n, rfl⟩)

theorem fits_list {item : Shape} {items : List Value} (each : ∀ v ∈ items, Fits item v) :
    Fits (.listOf item) (.list items) :=
  fits_listOf_iff.2 ⟨items, rfl, each⟩

@[simp] theorem fits_ofTexts (texts : List String) : Fits (.listOf .text) (ofTexts texts) :=
  fits_list (by simp)

@[simp] theorem fits_cardinality (c : Cardinality) :
    Fits (.oneOf (Cardinality.all.map (·.name))) (.text c.name) :=
  fits_oneOf_iff.2 ⟨c.name, by cases c <;> decide, rfl⟩

/-- An object with the members that a record asks for, each of its shape. -/
theorem fits_object {required : List String} {shapes : List (String × Shape)} {members : Members}
    (complete : ∀ key ∈ required, (Members.get? key members).isSome = true)
    (each : ∀ p ∈ shapes, ∀ w ∈ Members.get? p.1 members, Fits p.2 w) :
    Fits (.record required shapes) (.object members) :=
  fits_record_iff.2 ⟨members, rfl, complete, each⟩

theorem fits_field (f : Field) : Fits field f.toValue :=
  fits_object (by simp) (by simp)

theorem fits_node (m : Model) (p : Position) : Fits node (m.toNode p) := by
  have fields : Fits (.listOf field) (.list (m.fields.map (·.toValue))) :=
    fits_list (by simp [fits_field])
  have data : Fits (.record ["name", "fields"] [("name", .text), ("fields", .listOf field)])
      (.object [("name", .text m.name), ("fields", .list (m.fields.map (·.toValue)))]) :=
    fits_object (by simp) (by simp [fields])
  exact fits_object (by simp) (by simp [data])

theorem fits_relationDetails (a : RelationArgs) : Fits relationDetails a.toValue :=
  fits_object (by simp) (by simp)

theorem fits_edge (e : Edge) : Fits edge e.toValue := by
  refine fits_object (by simp) ?_
  simp [fits_object, fits_relationDetails]

theorem fits_enumeration (e : Enumeration) : Fits enumeration e.toValue :=
  fits_object (by simp) (by simp)

theorem fits_of_mem_nodesFrom {g : Grid} {models : List Model} {index : Nat} {v : Value}
    (member : v ∈ g.nodesFrom index models) : Fits node v := by
  induction models generalizing index with
  | nil => cases member
  | cons m rest ih =>
      rcases List.mem_cons.1 member with rfl | later
      · exact fits_node m _
      · exact ih later

/-- Whatever the diagram, its document has the shape of documents. -/
theorem fits_toDocument (d : Diagram) : Fits document d.toDocument := by
  have nodes : Fits (.listOf node) (.list (d.grid.nodesFrom 0 d.schema.models)) :=
    fits_list fun _ member => fits_of_mem_nodesFrom member
  have edges : Fits (.listOf edge) (.list (d.schema.edges.map (·.toValue))) :=
    fits_list (by simp [fits_edge])
  have enums : Fits (.listOf enumeration) (.list (d.schema.enums.map (·.toValue))) :=
    fits_list (by simp [fits_enumeration])
  exact fits_object (by simp) (by simp [nodes, edges, enums])

end Shape

theorem Diagram.valid_toDocument (d : Diagram) : (checkDocument d.toDocument).valid = true :=
  checkDocument_valid_iff.2 (Shape.fits_toDocument d)

/-- Reading a written document gives the schema as it was written, on the grid that
it is read for. -/
theorem Diagram.ofDocument_toDocument (d : Diagram) (g : Grid) :
    Diagram.ofDocument d.toDocument g = .ok { schema := d.schema.asWritten, grid := g } := by
  simp only [Diagram.ofDocument, d.valid_toDocument, if_true, Schema.ofValue_toDocument,
    Except.map]

end SchemaDiagram
