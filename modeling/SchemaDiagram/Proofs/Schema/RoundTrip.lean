/-
# SchemaDiagram.Proofs.Schema.RoundTrip -- canonical schemas are read back

A schema is canonical if its names and values stand on lines of their own without
being mistaken for something else, if its fields consist of words and complete
attributes, and if their relation flags are worked out from these parts.

A canonical schema is read back from its printed text, whatever names the preamble
is filled with, as long as these do not make a line of the preamble open an enum or
a model (`ofText_renderSchema`).  Names without line ends never do.
-/
import SchemaDiagram.Proofs.Schema.PrintedName
import SchemaDiagram.Proofs.Schema.Reread

namespace SchemaDiagram

set_option autoImplicit false

open Text

/-! ## Canonical schemas -/

structure CanonicalName (name : String) : Prop where
  lineEnd : '\n' ∉ name.toList
  brace : '\x7b' ∉ name.toList
  stripped : stripBlanks name = name

structure Enumeration.Canonical (e : Enumeration) : Prop where
  name : CanonicalName e.name
  lineEnd : ∀ v ∈ e.values, '\n' ∉ v.toList
  /-- Each value is a line of content, and its own trimming. -/
  content : ∀ v ∈ e.values, Line.ofText? v 0 = some ⟨.content, v, 0⟩

structure Field.Canonical (f : Field) : Prop where
  name : IsWord f.name
  starts : ∀ key ∈ ["//", "generator", "datasource", "\uFEFF"], startsWith key f.name = false
  notEnum : f.name ≠ "enum"
  notModel : f.name ≠ "model"
  type : IsWord f.type
  nameUnmarked : contains "@relation" f.name = false
  typeUnmarked : contains "@relation" f.type = false
  modifiers : ∀ m ∈ f.modifiers, Complete m
  ends : endsWith "\uFEFF" f.render = false
  flags : f = derived f.name f.type f.modifiers

structure Model.Canonical (m : Model) : Prop where
  name : CanonicalName m.name
  fields : ∀ f ∈ m.fields, f.Canonical

/-! ## Reading them back -/

theorem CanonicalName.printedName {name : String} (canonical : CanonicalName name) :
    printedName name = name :=
  (printedName_eq_self_iff canonical.stripped).2 (.inl canonical.brace)

namespace Enumeration.Canonical

variable {e : Enumeration}

theorem oneLine (canonical : e.Canonical) : e.OneLine :=
  ⟨canonical.name.lineEnd, canonical.lineEnd⟩

theorem value (canonical : e.Canonical) {v : String} (member : v ∈ e.values) :
    Line.IsContent v ∧ trim v = v := by
  have read := canonical.content v member
  rw [Line.ofText?, Option.map_eq_some_iff] at read
  obtain ⟨kind, sorted, same⟩ := read
  rw [Line.mk.injEq] at same
  obtain ⟨rfl, trimmed, -⟩ := same
  exact ⟨sorted, trimmed⟩

theorem reread (canonical : e.Canonical) : e.reread = e := by
  have values : e.values.map trim = e.values := by
    rw [List.map_congr_left fun v member => (canonical.value member).2, List.map_id']
  rw [Enumeration.reread, canonical.name.printedName, values]

end Enumeration.Canonical

namespace Field.Canonical

variable {f : Field}

theorem worded (canonical : f.Canonical) : f.Worded :=
  ⟨canonical.name, canonical.type, formed_of_complete canonical.modifiers⟩

theorem trim_render (canonical : f.Canonical) : trim f.render = f.render := by
  have start : startsWith "\uFEFF" f.render = false := by
    rw [Worded.startsWith_render (by decide)]
    exact canonical.starts _ (by simp)
  exact trim_eq_self_iff.2
    ⟨canonical.worded.spaced_render.bare, bare_isMark_iff.2 ⟨start, canonical.ends⟩⟩

theorem isContent_render (canonical : f.Canonical) : Line.IsContent f.render := by
  rw [Line.IsContent, canonical.trim_render, canonical.worded.kind?_render_eq_content_iff]
  exact ⟨fun key member => canonical.starts key (by revert key; decide), canonical.notEnum,
    canonical.notModel⟩

/-- The printed field mentions a relation iff an attribute of it does. -/
theorem ofLine?_render (canonical : f.Canonical) : ofLine? f.render = some f := by
  have mentions : contains "@relation" f.render = f.modifiers.any (contains "@relation") := by
    rw [Bool.eq_iff_iff, canonical.worded.contains_render_iff (by decide),
      canonical.nameUnmarked, canonical.typeUnmarked]
    simp
  rw [canonical.worded.ofLine?_render, mentions]
  exact congrArg some canonical.flags.symm

end Field.Canonical

namespace Model.Canonical

variable {m : Model}

theorem oneLine (canonical : m.Canonical) : m.OneLine :=
  ⟨canonical.name.lineEnd, fun f member =>
    (canonical.fields f member).worded.spaced_render.lineEnd_not_mem⟩

theorem isContent (canonical : m.Canonical) : ∀ f ∈ m.fields, Line.IsContent f.render :=
  fun f member => (canonical.fields f member).isContent_render

theorem reread (canonical : m.Canonical) : m.reread = m := by
  have fields : (m.fields.map fun f => trim f.render).filterMap Field.ofLine? = m.fields := by
    rw [List.filterMap_map]
    refine (List.filterMap_congr fun f member => ?_).trans List.filterMap_some
    have canonical := canonical.fields f member
    rw [Function.comp_apply, canonical.trim_render, canonical.ofLine?_render]
  rw [Model.reread, ModelBlock.model, printedBlock, fields, canonical.name.printedName]

end Model.Canonical

/-- **Canonical schemas are read back** from their printed text, whatever names the
preamble is filled with, exactly if these names make no line of it open a block. -/
theorem ofText_renderSchema {models : List Model} {enums : List Enumeration}
    (canonicalModels : ∀ m ∈ models, m.Canonical) (canonicalEnums : ∀ e ∈ enums, e.Canonical)
    (p : Preamble) (resolveBackFields : Bool) :
    (p.OneLine → p.OpensNothing) ∧
      ((Schema.ofText (renderSchema p models enums) resolveBackFields).models = models ∧
          (Schema.ofText (renderSchema p models enums) resolveBackFields).enums = enums ↔
        p.OpensNothing) := by
  have read := Scan.run_renderSchema p (fun m member => (canonicalModels m member).oneLine)
    (fun e member => (canonicalEnums e member).oneLine)
    (fun m member => (canonicalModels m member).isContent)
    fun e member v inside => ((canonicalEnums e member).value inside).1
  have sameModels : models.map (·.reread) = models := by
    rw [List.map_congr_left fun m member => (canonicalModels m member).reread, List.map_id']
  have sameEnums : enums.map (·.reread) = enums := by
    rw [List.map_congr_left fun e member => (canonicalEnums e member).reread, List.map_id']
  rw [sameModels, sameEnums] at read
  rw [Schema.ofText, read, ← Preamble.scan_empty_iff]
  exact ⟨fun oneLine => Preamble.scan_empty_iff.2 (Preamble.opensNothing_of_oneLine oneLine),
    by simp⟩

/-- A model whose annotation holds blanks, and an enum, printed with the default
preamble. -/
theorem ofText_renderSchema_post :
    (Schema.ofText
        (renderSchema {}
          [⟨"Post", [.derived "author" "User"
            ["@relation(fields: [authorId], references: [id])", "?"]]⟩]
          [⟨"Role", ["ADMIN", "USER @map(\"user\")"]⟩]) true).models =
      [⟨"Post", [.derived "author" "User"
        ["@relation(fields: [authorId], references: [id])", "?"]]⟩] := by
  have joined : Field.Complete
      (join " " ["@relation(fields:", "[authorId],", "references:", "[id])"]) := by
    refine .enclosed (fun w member => ?_) (by decide) (fun front start => ?_) (by decide)
    · revert w
      decide
    · rw [← List.mem_inits] at start
      revert front
      decide
  have canonicalModels : ∀ m ∈ [Model.mk "Post" [.derived "author" "User"
      ["@relation(fields: [authorId], references: [id])", "?"]]], m.Canonical := by
    rintro m (_ | ⟨_, ⟨⟩⟩)
    refine ⟨⟨by decide, by decide, by decide⟩, ?_⟩
    rintro f (_ | ⟨_, ⟨⟩⟩)
    refine ⟨by decide, by decide, by decide, by decide, by decide, by decide, by decide, ?_,
      by decide, rfl⟩
    rintro m (_ | ⟨_, _ | ⟨_, ⟨⟩⟩⟩)
    · exact joined
    · exact .optional
  have canonicalEnums : ∀ e ∈ [Enumeration.mk "Role" ["ADMIN", "USER @map(\"user\")"]],
      e.Canonical := by
    rintro e (_ | ⟨_, ⟨⟩⟩)
    exact ⟨⟨by decide, by decide, by decide⟩, by decide, by decide⟩
  have read := ofText_renderSchema canonicalModels canonicalEnums {} true
  exact (read.2.2 (read.1 ⟨by decide, by decide, by decide, by decide, by decide⟩)).1

end SchemaDiagram
