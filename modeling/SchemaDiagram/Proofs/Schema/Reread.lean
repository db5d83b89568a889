/-
# SchemaDiagram.Proofs.Schema.Reread -- what a printed schema is read back as

A printed block is read back as a block with the printed name and with the trimmed
lines as its content (`Model.reread`, `Enumeration.reread`), if each of its lines
counts as content.  Then a printed schema is read back block by block, behind
whatever its preamble leaves (`run_renderSchema`).
-/
import SchemaDiagram.Proofs.Schema.Block
import SchemaDiagram.Proofs.Schema.Declaration
import SchemaDiagram.Proofs.Schema.Preamble

namespace SchemaDiagram

set_option autoImplicit false

open Text

/-- A line that counts as content of its block. -/
def Line.IsContent (raw : String) : Prop :=
  kind? (trim raw) = some .content

instance : DecidablePred Line.IsContent :=
  fun raw => inferInstanceAs (Decidable (Line.kind? (trim raw) = some .content))

theorem Line.filterMap_statement? {raws : List String} (each : ∀ raw ∈ raws, IsContent raw) :
    raws.filterMap statement? = raws.map fun raw => ⟨.content, trim raw, 0⟩ := by
  rw [← List.filterMap_eq_map]
  exact List.filterMap_congr fun raw member => statement?_of_kind (each raw member)

/-! ## Blocks as they are read back -/

def Enumeration.reread (e : Enumeration) : Enumeration where
  name := printedName e.name
  values := e.values.map trim

/-- The block that a printed model opens and closes. -/
def Model.printedBlock (m : Model) : ModelBlock where
  name := printedName m.name
  lines := m.fields.map fun f => trim f.render
  closed := true

def Model.reread (m : Model) : Model :=
  m.printedBlock.model

/-- Every line of the printed enum holds one name or value, and no line end. -/
structure Enumeration.OneLine (e : Enumeration) : Prop where
  name : '\n' ∉ e.name.toList
  values : ∀ v ∈ e.values, '\n' ∉ v.toList

structure Model.OneLine (m : Model) : Prop where
  name : '\n' ∉ m.name.toList
  fields : ∀ f ∈ m.fields, '\n' ∉ f.render.toList

theorem Enumeration.statements_render {e : Enumeration} (oneLine : e.OneLine) :
    statements e.render =
      ⟨.enumOpen (printedName e.name), openingLine "enum" e.name, 0⟩ ::
        e.values.filterMap Line.statement? ++ [closingLine] := by
  rw [render, statements_renderBlock (by decide) oneLine.name oneLine.values, statement?_openEnum]
  rfl

theorem Model.statements_render {m : Model} (oneLine : m.OneLine) :
    statements m.render =
      ⟨.modelOpen (printedName m.name), openingLine "model" m.name, 0⟩ ::
        (m.fields.map (·.render)).filterMap Line.statement? ++ [closingLine] := by
  have inLines : ∀ line ∈ m.fields.map (·.render), '\n' ∉ line.toList := by
    simpa using oneLine.fields
  rw [render, statements_renderBlock (by decide) oneLine.name inLines, statement?_openModel]
  rfl

namespace Scan

/-! ## Content of an open block -/

theorem foldl_values (values : List String) :
    ∀ (s : Scan) (e : Enumeration),
      (values.map fun v => (⟨.content, v, 0⟩ : Line)).foldl step { s with openEnum := some e } =
        { s with openEnum := some { e with values := e.values ++ values } } := by
  induction values with
  | nil => simp
  | cons v rest ih =>
      intro s e
      have added : step { s with openEnum := some e } ⟨.content, v, 0⟩ =
          { s with openEnum := some { e with values := e.values ++ [v] } } := rfl
      rw [List.map_cons, List.foldl_cons, added, ih]
      simp

theorem foldl_fields (lines : List String) :
    ∀ (s : Scan) (b : ModelBlock),
      (lines.map fun line => (⟨.content, line, 0⟩ : Line)).foldl step
          { s with openModel := some b.model, openEnum := none } =
        { s with
          openModel := some { b with lines := b.lines ++ lines }.model
          relations := s.relations ++ lines.filterMap (ModelBlock.relationAt? b.name)
          openEnum := none } := by
  induction lines with
  | nil => simp
  | cons line rest ih =>
      intro s b
      have added : step { s with openModel := some b.model, openEnum := none }
            ⟨.content, line, 0⟩ =
          { s with
            openModel := some (b.addLine line).model
            relations := s.relations ++ (ModelBlock.relationAt? b.name line).toList
            openEnum := none } := by
        simp only [step, addContent, addField, ModelBlock.relationAt?]
        cases declared : Field.ofLine? line with
        | none => simp [ModelBlock.model, ModelBlock.addLine, declared]
        | some f => simp [ModelBlock.model, ModelBlock.addLine, declared]
      have later := ih { s with
        relations := s.relations ++ (ModelBlock.relationAt? b.name line).toList } (b.addLine line)
      rw [List.map_cons, List.foldl_cons, added, later, List.filterMap_cons]
      cases ModelBlock.relationAt? b.name line <;> simp [ModelBlock.addLine]

/-! ## Printed blocks -/

theorem foldl_enumBlock (name text : String) (values : List String) {s : Scan} (idle : s.Idle) :
    (⟨.enumOpen name, text, 0⟩ :: values.map (fun v => (⟨.content, v, 0⟩ : Line)) ++
        [closingLine]).foldl step s =
      { s with enums := s.enums ++ [{ name, values }] } := by
  have opened : s.step ⟨.enumOpen name, text, 0⟩ = { s with openEnum := some { name } } := rfl
  rw [List.cons_append, List.foldl_cons, List.foldl_append, opened, foldl_values]
  simp [step, closingLine, close, idle.openModel, idle.openEnum]

theorem foldl_modelBlock (name text : String) (lines : List String) {s : Scan} (idle : s.Idle) :
    (⟨.modelOpen name, text, 0⟩ :: lines.map (fun line => (⟨.content, line, 0⟩ : Line)) ++
        [closingLine]).foldl step s =
      { s with
        models := s.models ++ [ModelBlock.model { name, lines }]
        relations := s.relations ++ ModelBlock.relations { name, lines } } := by
  have opened : s.step ⟨.modelOpen name, text, 0⟩ =
      { s with openModel := some (ModelBlock.model { name }), openEnum := none } := by
    simp [step, ModelBlock.model, idle.openEnum]
  rw [List.cons_append, List.foldl_cons, List.foldl_append, opened, foldl_fields]
  simp [step, closingLine, close, ModelBlock.relations, idle.openModel, idle.openEnum]

theorem foldl_enum {e : Enumeration} (oneLine : e.OneLine)
    (content : ∀ v ∈ e.values, Line.IsContent v) {s : Scan} (idle : s.Idle) :
    (statements e.render).foldl step s = { s with enums := s.enums ++ [e.reread] } := by
  have block := foldl_enumBlock (printedName e.name) (openingLine "enum" e.name)
    (e.values.map trim) idle
  rw [List.map_map] at block
  rw [Enumeration.statements_render oneLine, Line.filterMap_statement? content]
  exact block

theorem foldl_model {m : Model} (oneLine : m.OneLine)
    (content : ∀ f ∈ m.fields, Line.IsContent f.render) {s : Scan} (idle : s.Idle) :
    (statements m.render).foldl step s =
      { s with
        models := s.models ++ [m.reread]
        relations := s.relations ++ m.printedBlock.relations } := by
  have each : ∀ raw ∈ m.fields.map (·.render), Line.IsContent raw := by simpa using content
  have block := foldl_modelBlock (printedName m.name) (openingLine "model" m.name)
    (m.fields.map fun f => trim f.render) idle
  rw [List.map_map] at block
  rw [Model.statements_render oneLine, Line.filterMap_statement? each, List.map_map]
  exact block

theorem foldl_enums {enums : List Enumeration} (oneLine : ∀ e ∈ enums, e.OneLine)
    (content : ∀ e ∈ enums, ∀ v ∈ e.values, Line.IsContent v) {s : Scan} (idle : s.Idle) :
    (enums.flatMap fun e => statements e.render).foldl step s =
      { s with enums := s.enums ++ enums.map (·.reread) } := by
  induction enums generalizing s with
  | nil => simp
  | cons e rest ih =>
      rw [List.forall_mem_cons] at oneLine content
      have still : Idle { s with enums := s.enums ++ [e.reread] } :=
        ⟨idle.openModel, idle.openEnum⟩
      rw [List.flatMap_cons, List.foldl_append, foldl_enum oneLine.1 content.1 idle,
        ih oneLine.2 content.2 still]
      simp

theorem foldl_models {models : List Model} (oneLine : ∀ m ∈ models, m.OneLine)
    (content : ∀ m ∈ models, ∀ f ∈ m.fields, Line.IsContent f.render) {s : Scan}
    (idle : s.Idle) :
    (models.flatMap fun m => statements m.render).foldl step s =
      { s with
        models := s.models ++ models.map (·.reread)
        relations := s.relations ++ models.flatMap (·.printedBlock.relations) } := by
  induction models generalizing s with
  | nil => simp
  | cons m rest ih =>
      rw [List.forall_mem_cons] at oneLine content
      have still : Idle { s with
          models := s.models ++ [m.reread]
          relations := s.relations ++ m.printedBlock.relations } :=
        ⟨idle.openModel, idle.openEnum⟩
      rw [List.flatMap_cons, List.foldl_append, foldl_model oneLine.1 content.1 idle,
        ih oneLine.2 content.2 still]
      simp

/-! ## Printed schemas -/

theorem foldl_blocks {models : List Model} {enums : List Enumeration}
    (modelLines : ∀ m ∈ models, m.OneLine) (enumLines : ∀ e ∈ enums, e.OneLine)
    (fields : ∀ m ∈ models, ∀ f ∈ m.fields, Line.IsContent f.render)
    (values : ∀ e ∈ enums, ∀ v ∈ e.values, Line.IsContent v) {s : Scan} (idle : s.Idle) :
    (enums.flatMap (fun e => statements e.render) ++
        models.flatMap fun m => statements m.render).foldl step s =
      { models := s.models ++ models.map (·.reread)
        enums := s.enums ++ enums.map (·.reread)
        relations := s.relations ++ models.flatMap (·.printedBlock.relations) } := by
  have still : Idle { s with enums := s.enums ++ enums.map (·.reread) } :=
    ⟨idle.openModel, idle.openEnum⟩
  rw [List.foldl_append, foldl_enums enumLines values idle, foldl_models modelLines fields still]
  simp [idle.openModel, idle.openEnum]

/-- **A printed schema is read back block by block**, behind what its preamble
leaves, if no line end stands inside its lines and all of them count as content. -/
theorem run_renderSchema (p : Preamble) {models : List Model} {enums : List Enumeration}
    (modelLines : ∀ m ∈ models, m.OneLine) (enumLines : ∀ e ∈ enums, e.OneLine)
    (fields : ∀ m ∈ models, ∀ f ∈ m.fields, Line.IsContent f.render)
    (values : ∀ e ∈ enums, ∀ v ∈ e.values, Line.IsContent v) :
    run (linesOf (renderSchema p models enums)) =
      { models := p.scan.models ++ models.map (·.reread)
        enums := p.scan.enums ++ enums.map (·.reread)
        relations := p.scan.relations ++ models.flatMap (·.printedBlock.relations) } := by
  rw [run_linesOf, statements_renderSchema, List.append_assoc, List.foldl_append]
  exact foldl_blocks modelLines enumLines fields values (p.idle_scan)

end Scan

end SchemaDiagram
