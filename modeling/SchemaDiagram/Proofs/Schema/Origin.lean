/-
# SchemaDiagram.Proofs.Schema.Origin -- the lines that a schema is read from

Every block of a text is named by an opening line, and holds lines of content only
(`ModelBlock.stems_of_mem`, `Scan.enums_stem`).  So what is known of the lines is
known of a schema: its names are bare of blanks (`ReadName`), its fields are read
from trimmed lines of content, and so are its values (`ReadLine`).  None of them
holds a line end.
-/
import SchemaDiagram.Proofs.Schema.Block
import SchemaDiagram.Proofs.Schema.Declaration

namespace SchemaDiagram

set_option autoImplicit false

open Text

/-! ## Blocks and the lines of a text -/

/-- A line of the text opens the block, and its lines are content of the text. -/
structure ModelBlock.Stems (lines : List Line) (b : ModelBlock) : Prop where
  name : ∃ line ∈ lines, line.kind = .modelOpen b.name
  lines : ∀ text ∈ b.lines, ∃ line ∈ lines, line.kind = .content ∧ line.text = text

structure Enumeration.Stems (lines : List Line) (e : Enumeration) : Prop where
  name : ∃ line ∈ lines, line.kind = .enumOpen e.name
  values : ∀ v ∈ e.values, ∃ line ∈ lines, line.kind = .content ∧ line.text = v

namespace ModelBlock

variable {lines : List Line}

theorem Stems.addLine {b : ModelBlock} (stems : b.Stems lines) {line : Line} (inside : line ∈ lines)
    (content : line.kind = .content) : (b.addLine line.text).Stems lines where
  name := stems.name
  lines := by
    intro text member
    rcases List.mem_append.1 member with earlier | last
    · exact stems.lines text earlier
    · exact ⟨line, inside, content, (List.mem_singleton.1 last).symm⟩

theorem stems_of_mem_from {rest : List Line} (part : ∀ line ∈ rest, line ∈ lines) :
    ∀ {inEnum : Bool} {current : Option ModelBlock}, (∀ b ∈ current, b.Stems lines) →
      ∀ b ∈ modelBlocksFrom inEnum current rest, b.Stems lines := by
  induction rest with
  | nil =>
      intro inEnum current opened b member
      exact opened b (Option.mem_toList.1 member)
  | cons line rest ih =>
      rw [List.forall_mem_cons] at part
      obtain ⟨inside, part⟩ := part
      intro inEnum current opened b member
      rw [modelBlocksFrom] at member
      cases kind : line.kind with
      | enumOpen name =>
          rw [kind] at member
          exact ih part opened b member
      | modelOpen name =>
          rw [kind] at member
          have fresh : ∀ c ∈ some { name : ModelBlock }, c.Stems lines := by
            rintro c ⟨⟩
            exact ⟨⟨line, inside, kind⟩, by simp⟩
          rcases List.mem_append.1 member with before | after
          · exact opened b (Option.mem_toList.1 before)
          · exact ih part fresh b after
      | blockClose =>
          rw [kind] at member
          rcases List.mem_append.1 member with closed | after
          · obtain ⟨c, underWay, rfl⟩ := Option.map_eq_some_iff.1 (Option.mem_toList.1 closed)
            exact ⟨(opened c underWay).name, (opened c underWay).lines⟩
          · exact ih part (by simp) b after
      | content =>
          rw [kind] at member
          dsimp only at member
          split at member
          · exact ih part opened b member
          · refine ih part (fun c added => ?_) b member
            obtain ⟨d, underWay, rfl⟩ := Option.map_eq_some_iff.1 added
            exact (opened d underWay).addLine inside kind

theorem stems_of_mem {b : ModelBlock} (member : b ∈ modelBlocks lines) : b.Stems lines :=
  stems_of_mem_from (fun _ inside => inside) (by simp) b member

end ModelBlock

namespace Scan

/-- Every enum of the scan, closed or open, stems from the lines. -/
def EnumsStem (lines : List Line) (s : Scan) : Prop :=
  (∀ e ∈ s.enums, e.Stems lines) ∧ ∀ e ∈ s.openEnum, e.Stems lines

theorem enumsStem_step {lines : List Line} {s : Scan} (stems : s.EnumsStem lines) {line : Line}
    (inside : line ∈ lines) : (s.step line).EnumsStem lines := by
  obtain ⟨closed, opened⟩ := stems
  cases kind : line.kind with
  | enumOpen name =>
      rw [step, kind]
      refine ⟨closed, ?_⟩
      rintro e ⟨⟩
      exact ⟨⟨line, inside, kind⟩, by simp⟩
  | modelOpen name =>
      rw [step, kind]
      exact ⟨closed, opened⟩
  | blockClose =>
      rw [step, kind]
      refine ⟨fun e member => ?_, by simp [close]⟩
      rcases List.mem_append.1 member with earlier | last
      · exact closed e earlier
      · exact opened e (Option.mem_toList.1 last)
  | content =>
      rw [step, kind]
      dsimp only
      rw [addContent]
      split
      · rename_i e underWay
        refine ⟨closed, ?_⟩
        rintro _ ⟨⟩
        refine ⟨(opened e underWay).name, fun v member => ?_⟩
        rcases List.mem_append.1 member with earlier | last
        · exact (opened e underWay).values v earlier
        · exact ⟨line, inside, kind, (List.mem_singleton.1 last).symm⟩
      · rw [addField]
        split <;> exact ⟨closed, opened⟩
      · exact ⟨closed, opened⟩

theorem enums_stem (lines : List Line) : ∀ e ∈ (run lines).enums, e.Stems lines := by
  suffices kept : ∀ rest : List Line, (∀ line ∈ rest, line ∈ lines) → ∀ s : Scan,
      s.EnumsStem lines → (rest.foldl step s).EnumsStem lines from
    (kept lines (fun _ inside => inside) {} ⟨by simp, by simp⟩).1
  intro rest
  induction rest with
  | nil => exact fun _ _ stems => stems
  | cons line rest ih =>
      intro part s stems
      rw [List.forall_mem_cons] at part
      exact ih part.2 _ (enumsStem_step stems part.1)

end Scan

/-! ## What is read of a line -/

structure ReadName (name : String) : Prop where
  lineEnd : '\n' ∉ name.toList
  stripped : stripBlanks name = name

/-- A trimmed line of content. -/
structure ReadLine (line : String) : Prop where
  lineEnd : '\n' ∉ line.toList
  bare : Bare isBlank line.toList
  content : Line.kind? line = some .content

theorem exists_raw_of_mem_linesOf {text : String} {line : Line} (inside : line ∈ linesOf text) :
    '\n' ∉ line.text.toList ∧ Bare isBlank line.text.toList ∧
      Line.kind? line.text = some line.kind := by
  obtain ⟨raw, piece, sorted, trimmed⟩ := Line.exists_raw_of_mem_ofLines inside
  rw [trimmed, toList_trim]
  exact ⟨fun mem => lineEnd_not_mem_of_mem_pieces piece ((trimChars_part raw.toList).subset mem),
    bare_trimChars raw.toList, sorted⟩

theorem readName_blockName {keyword line : String} (absent : '\n' ∉ line.toList) :
    ReadName (Line.blockName keyword line) where
  lineEnd := by
    rw [Line.blockName, toList_stripBlanks]
    exact fun mem => absent (removeFirst_subset (removeFirst_subset
      ((strip_part isBlank _).subset mem)))
  stripped := by
    rw [stripBlanks_eq_self_iff, Line.blockName, toList_stripBlanks]
    exact bare_strip isBlank _

theorem readName_of_mem {text name : String} {line : Line} (inside : line ∈ linesOf text)
    (opens : line.kind = .enumOpen name ∨ line.kind = .modelOpen name) : ReadName name := by
  obtain ⟨absent, -, sorted⟩ := exists_raw_of_mem_linesOf inside
  rcases opens with kind | kind
  · rw [kind] at sorted
    exact (Line.of_enumOpen sorted).2 ▸ readName_blockName absent
  · rw [kind] at sorted
    exact (Line.of_modelOpen sorted).2 ▸ readName_blockName absent

theorem readLine_of_mem {text line : String}
    (inside : ∃ l ∈ linesOf text, l.kind = .content ∧ l.text = line) : ReadLine line := by
  obtain ⟨l, inside, kind, rfl⟩ := inside
  obtain ⟨absent, bare, sorted⟩ := exists_raw_of_mem_linesOf inside
  exact ⟨absent, bare, kind ▸ sorted⟩

/-! ## What is read of a text -/

/-- A field that some line of content declares. -/
def ReadField (f : Field) : Prop :=
  ∃ line, ReadLine line ∧ Field.ofLine? line = some f

namespace Schema

variable {text : String} {resolveBackFields : Bool}

/-- A line opens the model. -/
theorem exists_opening_of_mem_models {m : Model}
    (member : m ∈ (ofText text resolveBackFields).models) :
    ∃ line ∈ linesOf text, line.kind = .modelOpen m.name := by
  rw [ofText, Scan.models_run] at member
  obtain ⟨b, kept, rfl⟩ := List.mem_map.1 member
  exact (ModelBlock.stems_of_mem (List.mem_filter.1 kept).1).name

theorem readName_of_mem_models {m : Model}
    (member : m ∈ (ofText text resolveBackFields).models) : ReadName m.name := by
  obtain ⟨line, inside, kind⟩ := exists_opening_of_mem_models member
  exact readName_of_mem inside (.inr kind)

/-- A line of content declares the field. -/
theorem exists_line_of_mem_models {m : Model}
    (member : m ∈ (ofText text resolveBackFields).models) : ∀ f ∈ m.fields, ∃ line,
      (∃ l ∈ linesOf text, l.kind = .content ∧ l.text = line) ∧ Field.ofLine? line = some f := by
  rw [ofText, Scan.models_run] at member
  obtain ⟨b, kept, rfl⟩ := List.mem_map.1 member
  intro f inside
  obtain ⟨line, inBlock, declared⟩ := List.mem_filterMap.1 inside
  exact ⟨line, (ModelBlock.stems_of_mem (List.mem_filter.1 kept).1).lines line inBlock, declared⟩

theorem readField_of_mem_models {m : Model}
    (member : m ∈ (ofText text resolveBackFields).models) : ∀ f ∈ m.fields, ReadField f := by
  intro f inside
  obtain ⟨line, inText, declared⟩ := exists_line_of_mem_models member f inside
  exact ⟨line, readLine_of_mem inText, declared⟩

theorem readName_of_mem_enums {e : Enumeration}
    (member : e ∈ (ofText text resolveBackFields).enums) : ReadName e.name := by
  obtain ⟨line, inside, kind⟩ := (Scan.enums_stem _ e member).name
  exact readName_of_mem inside (.inl kind)

theorem readLine_of_mem_enums {e : Enumeration}
    (member : e ∈ (ofText text resolveBackFields).enums) : ∀ v ∈ e.values, ReadLine v :=
  fun v inside => readLine_of_mem ((Scan.enums_stem _ e member).values v inside)

end Schema

end SchemaDiagram
