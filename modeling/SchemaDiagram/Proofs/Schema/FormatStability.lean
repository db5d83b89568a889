/-
# SchemaDiagram.Proofs.Schema.FormatStability -- formatting what was formatted

Formatting reads a schema and prints it with the default preamble.  Reading the
printed text gives the same declarations iff the schema is `Settled`: its names
keep what they are when printed, no field is named by a keyword, and no byte-order
mark ends a printed field or a value (`format_stable_iff`).

That a settled schema is read back follows line by line.  For the converse, a scan
holds at most as many fields and values as lines of content were read
(`weight_foldl_le`); so if none is lost, every printed line counts as content, and
then each is read back by itself.
-/
import SchemaDiagram.Proofs.Schema.Origin
import SchemaDiagram.Proofs.Schema.PrintedName
import SchemaDiagram.Proofs.Schema.Reread

namespace SchemaDiagram

set_option autoImplicit false

open Text

/-! ## Declarations -/

/-- What the printer writes of a field. -/
def Field.declaration (f : Field) : String × String × List String :=
  (f.name, f.type, f.modifiers)

def Model.declaration (m : Model) : String × List (String × String × List String) :=
  (m.name, m.fields.map (·.declaration))

theorem Model.map_render_of_declaration {ms ns : List Model}
    (same : ms.map (·.declaration) = ns.map (·.declaration)) :
    ms.map (·.render) = ns.map (·.render) := by
  have printed (m : Model) : m.render = renderBlock "model" m.declaration.1
      (m.declaration.2.map fun d => join " " (d.1 :: d.2.1 :: d.2.2)) := by
    rw [render, declaration, List.map_map]
    rfl
  have apart := congrArg (List.map fun d : String × List (String × String × List String) =>
    renderBlock "model" d.1 (d.2.map fun d => join " " (d.1 :: d.2.1 :: d.2.2))) same
  rw [List.map_map, List.map_map] at apart
  simpa only [printed, Function.comp_def] using apart

theorem Model.length_of_declaration {ms ns : List Model}
    (same : ms.map (·.declaration) = ns.map (·.declaration)) :
    (ms.flatMap (·.fields)).length = (ns.flatMap (·.fields)).length := by
  have apart := congrArg (List.map fun d : String × List (String × String × List String) =>
    d.2.length) same
  simp only [List.map_map, Function.comp_def, declaration, List.length_map] at apart
  rw [List.length_flatMap, List.length_flatMap, apart]

/-! ## Settled schemas -/

/-- No braces, or a row of them with a space between neighbours. -/
def SettledName (name : String) : Prop :=
  '\x7b' ∉ name.toList ∨ ∃ n, name = join " " (List.replicate (n + 1) "\x7b")

structure Field.Settled (f : Field) : Prop where
  notEnum : f.name ≠ "enum"
  notModel : f.name ≠ "model"
  starts : startsWith "\uFEFF" f.name = false
  ends : endsWith "\uFEFF" f.render = false

structure Model.Settled (m : Model) : Prop where
  name : SettledName m.name
  fields : ∀ f ∈ m.fields, f.Settled

structure Enumeration.Settled (e : Enumeration) : Prop where
  name : SettledName e.name
  starts : ∀ v ∈ e.values, startsWith "\uFEFF" v = false
  ends : ∀ v ∈ e.values, endsWith "\uFEFF" v = false

structure Schema.Settled (s : Schema) : Prop where
  models : ∀ m ∈ s.models, m.Settled
  enums : ∀ e ∈ s.enums, e.Settled

/-! ## Lines that are read back -/

namespace ReadField

variable {f : Field}

theorem worded (read : ReadField f) : f.Worded :=
  let ⟨_, _, declared⟩ := read
  Field.worded_of_ofLine? declared

theorem trim_render_iff (read : ReadField f) :
    trim f.render = f.render ↔
      startsWith "\uFEFF" f.name = false ∧ endsWith "\uFEFF" f.render = false := by
  rw [trim_eq_self_iff, bare_isMark_iff, Field.Worded.startsWith_render (by decide)]
  exact and_iff_right read.worded.spaced_render.bare

theorem isContent_iff (read : ReadField f) (kept : trim f.render = f.render) :
    Line.IsContent f.render ↔ f.name ≠ "enum" ∧ f.name ≠ "model" := by
  obtain ⟨line, ⟨_, bare, content⟩, declared⟩ := id read
  rw [Line.IsContent, kept, read.worded.kind?_render_eq_content_iff]
  exact and_iff_right (Field.name_not_skipped bare content declared)

/-- A printed field that is read back was not trimmed, as it has no word to lose. -/
theorem trim_render_of_declaration (read : ReadField f) {g : Field}
    (back : Field.ofLine? (trim f.render) = some g) (same : g.declaration = f.declaration) :
    trim f.render = f.render := by
  simp only [Field.declaration, Prod.mk.injEq] at same
  have kept := Field.sublist_of_ofLine? back
  rw [same.1, same.2.1, same.2.2, ← read.worded.words_render] at kept
  have part : (trim f.render).toList <:+: f.render.toList := by
    rw [toList_trim]
    exact trimChars_part _
  exact eq_of_part_of_words part read.worded.spaced_render.bare kept

/-- A settled field is read back from its own line. -/
theorem settled_iff (read : ReadField f) :
    f.Settled ↔ Line.IsContent f.render ∧
      (Field.ofLine? (trim f.render)).map (·.declaration) = some f.declaration := by
  constructor
  · rintro ⟨notEnum, notModel, starts, ends⟩
    have kept := read.trim_render_iff.2 ⟨starts, ends⟩
    refine ⟨(read.isContent_iff kept).2 ⟨notEnum, notModel⟩, ?_⟩
    rw [kept, read.worded.ofLine?_render]
    rfl
  · rintro ⟨content, back⟩
    obtain ⟨g, declared, same⟩ := Option.map_eq_some_iff.1 back
    have kept := read.trim_render_of_declaration declared same
    obtain ⟨notEnum, notModel⟩ := (read.isContent_iff kept).1 content
    obtain ⟨starts, ends⟩ := read.trim_render_iff.1 kept
    exact ⟨notEnum, notModel, starts, ends⟩

end ReadField

theorem ReadLine.trim_iff {v : String} (read : ReadLine v) :
    trim v = v ↔ startsWith "\uFEFF" v = false ∧ endsWith "\uFEFF" v = false := by
  rw [trim_eq_self_iff, bare_isMark_iff]
  exact and_iff_right read.bare

theorem ReadLine.isContent {v : String} (read : ReadLine v) (kept : trim v = v) :
    Line.IsContent v := by
  rw [Line.IsContent, kept, read.content]

theorem ReadName.printedName_iff {name : String} (read : ReadName name) :
    printedName name = name ↔ SettledName name := by
  rw [printedName_eq_self_iff read.stripped, SettledName]

/-! ## Counting what a scan holds -/

namespace Scan

/-- The number of fields and values, in closed and in open blocks. -/
def weight (s : Scan) : Nat :=
  ((s.models ++ s.openModel.toList).flatMap (·.fields)).length +
    ((s.enums ++ s.openEnum.toList).flatMap (·.values)).length

theorem weight_addField_le (s : Scan) (m : Model) (line : String) (opened : s.openModel = some m) :
    (s.addField m line).weight ≤ s.weight + 1 := by
  rw [addField]
  split
  · omega
  · simp [weight, opened]
    omega

/-- Only content adds to what a scan holds, and each line of it adds one at most. -/
theorem weight_step_le (s : Scan) (line : Line) :
    (s.step line).weight ≤ s.weight + if line.kind = .content then 1 else 0 := by
  cases kind : line.kind with
  | enumOpen name => simp [weight, step, kind]
  | modelOpen name => simp [weight, step, kind]
  | blockClose => simp [weight, step, kind, close]
  | content =>
      rw [step, kind, if_pos rfl]
      dsimp only
      rw [addContent]
      split
      · rename_i e opened
        simp [weight, opened]
        omega
      · rename_i m _ opened
        exact weight_addField_le s m line.text opened
      · omega

theorem weight_foldl_le (lines : List Line) :
    ∀ s : Scan, (lines.foldl step s).weight ≤ s.weight + lines.countP (·.kind = .content) := by
  induction lines with
  | nil => simp
  | cons line rest ih =>
      intro s
      have here := weight_step_le s line
      have there := ih (s.step line)
      rw [List.foldl_cons, List.countP_cons]
      by_cases content : line.kind = .content <;> simp [content] at here ⊢ <;> omega

theorem countP_statement? (raws : List String) :
    (raws.filterMap Line.statement?).countP (·.kind = .content) =
      raws.countP fun raw => Line.IsContent raw := by
  rw [List.countP_filterMap]
  refine List.countP_congr fun raw _ => ?_
  rw [decide_eq_true_eq, Line.IsContent, Line.statement?, Line.ofText?]
  cases Line.kind? (trim raw) <;> simp

theorem countP_enum {e : Enumeration} (oneLine : e.OneLine) :
    (statements e.render).countP (·.kind = .content) =
      e.values.countP fun v => Line.IsContent v := by
  rw [Enumeration.statements_render oneLine, List.countP_append, List.countP_cons,
    countP_statement?]
  simp [closingLine]

theorem countP_model {m : Model} (oneLine : m.OneLine) :
    (statements m.render).countP (·.kind = .content) =
      m.fields.countP fun f => Line.IsContent f.render := by
  rw [Model.statements_render oneLine, List.countP_append, List.countP_cons, countP_statement?,
    List.countP_map]
  simp [closingLine, Function.comp_def]

theorem countP_blocks {models : List Model} {enums : List Enumeration}
    (modelLines : ∀ m ∈ models, m.OneLine) (enumLines : ∀ e ∈ enums, e.OneLine) :
    (enums.flatMap (fun e => statements e.render) ++
        models.flatMap fun m => statements m.render).countP (·.kind = .content) =
      (enums.flatMap (·.values)).countP (fun v => Line.IsContent v) +
        (models.flatMap (·.fields)).countP fun f => Line.IsContent f.render := by
  have inEnums := congrArg List.sum
    (List.map_congr_left fun e member => countP_enum (enumLines e member))
  have inModels := congrArg List.sum
    (List.map_congr_left fun m member => countP_model (modelLines m member))
  rw [List.countP_append, List.countP_flatMap, List.countP_flatMap, List.countP_flatMap,
    List.countP_flatMap]
  simp only [Function.comp_def]
  rw [inEnums, inModels]

/-- If reading a printed schema loses no field and no value, all its lines count as
content. -/
theorem isContent_of_kept {p : Preamble} (inert : p.OpensNothing) {models : List Model}
    {enums : List Enumeration} (modelLines : ∀ m ∈ models, m.OneLine)
    (enumLines : ∀ e ∈ enums, e.OneLine) {s : Scan}
    (read : run (linesOf (renderSchema p models enums)) = s)
    (fields : (s.models.flatMap (·.fields)).length = (models.flatMap (·.fields)).length)
    (values : (s.enums.flatMap (·.values)).length = (enums.flatMap (·.values)).length) :
    (∀ m ∈ models, ∀ f ∈ m.fields, Line.IsContent f.render) ∧
      ∀ e ∈ enums, ∀ v ∈ e.values, Line.IsContent v := by
  rw [run_linesOf, statements_renderSchema, List.append_assoc, List.foldl_append,
    ← Preamble.scan.eq_1, Preamble.scan_of_opensNothing inert] at read
  have bound := weight_foldl_le (enums.flatMap (fun e => statements e.render) ++
    models.flatMap fun m => statements m.render) {}
  rw [read, countP_blocks modelLines enumLines] at bound
  have start : weight {} = 0 := rfl
  have held : (s.models.flatMap (·.fields)).length + (s.enums.flatMap (·.values)).length ≤
      s.weight := by
    simp only [weight, List.flatMap_append, List.length_append]
    omega
  have mostFields := List.countP_le_length (p := fun f : Field => decide (Line.IsContent f.render))
    (l := models.flatMap (·.fields))
  have mostValues := List.countP_le_length (p := fun v : String => decide (Line.IsContent v))
    (l := enums.flatMap (·.values))
  have allFields : (models.flatMap (·.fields)).countP (fun f => Line.IsContent f.render) =
      (models.flatMap (·.fields)).length := by omega
  have allValues : (enums.flatMap (·.values)).countP (fun v => Line.IsContent v) =
      (enums.flatMap (·.values)).length := by omega
  rw [List.countP_eq_length] at allFields allValues
  exact ⟨fun m member f inside =>
      of_decide_eq_true (allFields f (List.mem_flatMap.2 ⟨m, member, inside⟩)),
    fun e member v inside =>
      of_decide_eq_true (allValues v (List.mem_flatMap.2 ⟨e, member, inside⟩))⟩

end Scan

/-! ## Blocks that are read back -/

theorem Enumeration.settled_iff {e : Enumeration} (name : ReadName e.name)
    (values : ∀ v ∈ e.values, ReadLine v) : e.Settled ↔ e.reread = e := by
  have trimmed : e.values.map trim = e.values ↔ ∀ v ∈ e.values, trim v = v := by
    conv => lhs; rhs; rw [← List.map_id e.values]
    exact List.map_inj_left
  have parts : e.reread = e ↔ printedName e.name = e.name ∧ e.values.map trim = e.values := by
    cases e
    simp [reread]
  rw [parts, trimmed, name.printedName_iff,
    forall₂_congr fun v member => (values v member).trim_iff]
  constructor
  · exact fun settled =>
      ⟨settled.name, fun v member => ⟨settled.starts v member, settled.ends v member⟩⟩
  · exact fun ⟨braces, marks⟩ =>
      ⟨braces, fun v member => (marks v member).1, fun v member => (marks v member).2⟩

/-- Lines that are read to as many results are read one by one. -/
theorem filterMap_map_eq_iff {α β γ : Type} {read : α → Option β} {view : β → γ} {own : α → γ}
    {l : List α} :
    (l.filterMap read).map view = l.map own ↔ ∀ a ∈ l, (read a).map view = some (own a) := by
  rw [List.map_filterMap, List.filterMap_eq_map_iff_forall_eq_some]

theorem Model.settled_iff {m : Model} (name : ReadName m.name)
    (fields : ∀ f ∈ m.fields, ReadField f) :
    m.Settled ↔ (∀ f ∈ m.fields, Line.IsContent f.render) ∧
      m.reread.declaration = m.declaration := by
  have parts : m.reread.declaration = m.declaration ↔ printedName m.name = m.name ∧
      ∀ f ∈ m.fields, (Field.ofLine? (trim f.render)).map (·.declaration) = some f.declaration := by
    rw [declaration, declaration, Prod.mk.injEq, reread, ModelBlock.model, printedBlock,
      List.filterMap_map, filterMap_map_eq_iff]
    simp only [Function.comp_apply]
  rw [parts, name.printedName_iff]
  constructor
  · intro settled
    exact ⟨fun f member => ((fields f member).settled_iff.1 (settled.fields f member)).1,
      settled.name, fun f member => ((fields f member).settled_iff.1 (settled.fields f member)).2⟩
  · rintro ⟨content, braces, back⟩
    exact ⟨braces, fun f member =>
      (fields f member).settled_iff.2 ⟨content f member, back f member⟩⟩

/-! ## Formatting -/

theorem Preamble.opensNothing_default : Preamble.OpensNothing {} :=
  opensNothing_of_oneLine ⟨by decide, by decide, by decide, by decide, by decide⟩

namespace Schema

variable {text : String} {resolveBackFields : Bool}

theorem models_ofText (text : String) (resolveBackFields : Bool) :
    (ofText text resolveBackFields).models = (Scan.run (linesOf text)).models := rfl

theorem enums_ofText (text : String) (resolveBackFields : Bool) :
    (ofText text resolveBackFields).enums = (Scan.run (linesOf text)).enums := rfl

theorem oneLine_models : ∀ m ∈ (ofText text resolveBackFields).models, m.OneLine := fun _ member =>
  ⟨(readName_of_mem_models member).lineEnd, fun f inside =>
    (readField_of_mem_models member f inside).worded.spaced_render.lineEnd_not_mem⟩

theorem oneLine_enums : ∀ e ∈ (ofText text resolveBackFields).enums, e.OneLine := fun _ member =>
  ⟨(readName_of_mem_enums member).lineEnd, fun v inside =>
    (readLine_of_mem_enums member v inside).lineEnd⟩

/-- What formatting a text and reading it again gives. -/
theorem run_render_of_settled (settled : (ofText text resolveBackFields).Settled) :
    Scan.run (linesOf ((ofText text resolveBackFields).render {})) =
      { models := (ofText text resolveBackFields).models.map (·.reread)
        enums := (ofText text resolveBackFields).enums
        relations :=
          (ofText text resolveBackFields).models.flatMap (·.printedBlock.relations) } := by
  have enums : (ofText text resolveBackFields).enums.map (·.reread) =
      (ofText text resolveBackFields).enums := by
    rw [List.map_congr_left fun e member => (Enumeration.settled_iff
      (readName_of_mem_enums member) (readLine_of_mem_enums member)).1 (settled.enums e member),
      List.map_id']
  have fields : ∀ m ∈ (ofText text resolveBackFields).models, ∀ f ∈ m.fields,
      Line.IsContent f.render := fun m member => ((Model.settled_iff
        (readName_of_mem_models member) (readField_of_mem_models member)).1
        (settled.models m member)).1
  have values : ∀ e ∈ (ofText text resolveBackFields).enums, ∀ v ∈ e.values,
      Line.IsContent v := fun e member v inside => by
    have read := readLine_of_mem_enums member v inside
    have marks := settled.enums e member
    exact read.isContent (read.trim_iff.2 ⟨marks.starts v inside, marks.ends v inside⟩)
  rw [render, Scan.run_renderSchema {} oneLine_models oneLine_enums fields values, enums,
    Preamble.scan_of_opensNothing Preamble.opensNothing_default]
  rfl

/-- If reading a formatted text gives the declarations again, then each of its lines
does by itself. -/
theorem settled_of_stable (text : String) {resolveBackFields resolveAgain : Bool}
    (sameModels : (ofText ((ofText text resolveBackFields).render {}) resolveAgain).models.map
        (·.declaration) = (ofText text resolveBackFields).models.map (·.declaration))
    (sameEnums : (ofText ((ofText text resolveBackFields).render {}) resolveAgain).enums =
      (ofText text resolveBackFields).enums) :
    (ofText text resolveBackFields).Settled := by
  rw [models_ofText, render] at sameModels
  rw [enums_ofText, render] at sameEnums
  have modelLines : ∀ m ∈ (ofText text resolveBackFields).models, m.OneLine := oneLine_models
  have enumLines : ∀ e ∈ (ofText text resolveBackFields).enums, e.OneLine := oneLine_enums
  have sameValues := congrArg (fun es : List Enumeration => (es.flatMap (·.values)).length)
    sameEnums
  obtain ⟨fields, values⟩ := Scan.isContent_of_kept Preamble.opensNothing_default modelLines
    enumLines rfl (Model.length_of_declaration sameModels) sameValues
  have read := Scan.run_renderSchema {} modelLines enumLines fields values
  rw [Preamble.scan_of_opensNothing Preamble.opensNothing_default] at read
  rw [read] at sameModels sameEnums
  simp only [List.nil_append, List.map_map, List.map_inj_left] at sameModels
  simp only [List.nil_append] at sameEnums
  have sameEnum : ∀ e ∈ (ofText text resolveBackFields).enums, e.reread = e := by
    rw [← List.map_inj_left, List.map_id', sameEnums]
  exact ⟨fun m member => (Model.settled_iff (readName_of_mem_models member)
      (readField_of_mem_models member)).2 ⟨fields m member, sameModels m member⟩,
    fun e member => (Enumeration.settled_iff (readName_of_mem_enums member)
      (readLine_of_mem_enums member)).2 (sameEnum e member)⟩

/-- **When formatting changes nothing that it wrote before**: reading a formatted
text gives the declarations again, and so formatting that text gives it again,
exactly if the schema is settled. -/
theorem format_stable_iff (text : String) (resolveBackFields resolveAgain : Bool) :
    let first := ofText text resolveBackFields
    let second := ofText (first.render {}) resolveAgain
    (second.models.map (·.declaration) = first.models.map (·.declaration) ∧
        second.enums = first.enums ∧ second.render {} = first.render {}) ↔
      first.Settled := by
  intro first second
  have again : second.models = (Scan.run (linesOf (first.render {}))).models ∧
      second.enums = (Scan.run (linesOf (first.render {}))).enums :=
    ⟨models_ofText _ _, enums_ofText _ _⟩
  constructor
  · rintro ⟨sameModels, sameEnums, -⟩
    exact settled_of_stable text sameModels sameEnums
  · intro settled
    rw [run_render_of_settled settled] at again
    have sameModels : second.models.map (·.declaration) = first.models.map (·.declaration) := by
      rw [again.1, List.map_map]
      exact List.map_congr_left fun m member => ((Model.settled_iff
        (readName_of_mem_models member) (readField_of_mem_models member)).1
        (settled.models m member)).2
    refine ⟨sameModels, again.2, ?_⟩
    rw [render, render, renderSchema, renderSchema, again.2,
      Model.map_render_of_declaration sameModels]

/-- A field named by a keyword, apart from its type by a tab, opens a model once a
space is printed for the tab. -/
theorem keyword_field_not_stable :
    ¬ (let first := ofText "model A \x7b\n  model\tInt\n\x7d" true
      let second := ofText (first.render {}) true
      second.models.map (·.declaration) = first.models.map (·.declaration) ∧
        second.enums = first.enums ∧ second.render {} = first.render {}) := by
  have read : (ofText "model A \x7b\n  model\tInt\n\x7d" true).models =
      [⟨"A", [⟨"model", "Int", [], false, none⟩]⟩] := by
    decide +kernel
  rintro ⟨sameModels, sameEnums, -⟩
  have settled := (settled_of_stable _ sameModels sameEnums).models
  rw [read] at settled
  exact ((settled _ List.mem_cons_self).fields _ List.mem_cons_self).notModel rfl

end Schema

end SchemaDiagram
