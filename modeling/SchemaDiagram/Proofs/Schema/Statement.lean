/-
# SchemaDiagram.Proofs.Schema.Statement -- the statements of a text

The statements of a text are its lines without their numbers, which no scan looks
at (`run_linesOf`).  Texts on lines of their own have the statements of each in
turn (`statements_append_lineEnd`), so a printed schema has those of its preamble,
its enums and its models (`statements_renderSchema`).

A printed block has an opening line, those of its lines that are not skipped, and
a closing brace (`statements_renderBlock`).  The opening line names the block by
what is left of the name behind its first brace, `printedName`.
-/
import SchemaDiagram.Schema.Scan
import SchemaDiagram.Schema.Printer
import SchemaDiagram.Proofs.Text.Search

namespace SchemaDiagram

set_option autoImplicit false

open Text

namespace Line

/-- The statement that a line makes, if it is not skipped. -/
def statement? (raw : String) : Option Line :=
  ofText? raw 0

@[simp] theorem statement?_empty : statement? "" = none := by
  decide

@[simp] theorem statement?_indented (raw : String) : statement? ("  " ++ raw) = statement? raw := by
  rw [statement?, statement?, ofText?, ofText?, trim_indented]

theorem statement?_closing : statement? "\x7d" = some ⟨.blockClose, "\x7d", 0⟩ := by
  decide

theorem statement?_eq_some_iff {raw : String} {line : Line} :
    statement? raw = some line ↔
      kind? (trim raw) = some line.kind ∧ line.text = trim raw ∧ line.number = 0 := by
  rw [statement?, ofText?, Option.map_eq_some_iff]
  constructor
  · rintro ⟨kind, sorted, rfl⟩
    exact ⟨sorted, rfl, rfl⟩
  · rintro ⟨sorted, text, number⟩
    exact ⟨line.kind, sorted, by cases line; simp_all⟩

theorem statement?_of_kind {raw : String} {kind : Kind} (sorted : kind? (trim raw) = some kind) :
    statement? raw = some { kind, text := trim raw, number := 0 } :=
  statement?_eq_some_iff.2 ⟨sorted, rfl, rfl⟩

-- From here on a line is read by these lemmas, never by unfolding.
attribute [irreducible] statement?

/-! ## How a line counts -/

theorem skipped_of_startsWith {key line : String} (starts : startsWith key line = true)
    (apart : ∀ skipped ∈ skippedStarts,
      startsWith key skipped = false ∧ startsWith skipped key = false) :
    skippedStarts.any (startsWith · line) = false := by
  rw [List.any_eq_false]
  intro skipped member
  rw [startsWith_of_startsWith starts (apart skipped member).1 (apart skipped member).2]
  decide

theorem kind?_of_enum {line : String} (starts : startsWith "enum " line = true) :
    kind? line = some (.enumOpen (blockName "enum " line)) := by
  have full : line ≠ "" := by
    rintro rfl
    revert starts
    decide
  have counted := skipped_of_startsWith starts (by decide)
  simp [kind?, full, counted, starts]

theorem kind?_of_model {line : String} (starts : startsWith "model " line = true) :
    kind? line = some (.modelOpen (blockName "model " line)) := by
  have full : line ≠ "" := by
    rintro rfl
    revert starts
    decide
  have counted := skipped_of_startsWith starts (by decide)
  have noEnum : startsWith "enum " line = false :=
    startsWith_of_startsWith starts (by decide) (by decide)
  simp [kind?, full, counted, noEnum, starts]

theorem of_enumOpen {line name : String} (sorted : kind? line = some (.enumOpen name)) :
    startsWith "enum " line = true ∧ name = blockName "enum " line := by
  rw [kind?] at sorted
  split at sorted
  · cases sorted
  · split at sorted
    · rename_i starts
      rw [Option.some.injEq, Kind.enumOpen.injEq] at sorted
      exact ⟨starts, sorted.symm⟩
    · split at sorted
      · cases sorted
      · split at sorted <;> cases sorted

theorem of_modelOpen {line name : String} (sorted : kind? line = some (.modelOpen name)) :
    startsWith "model " line = true ∧ name = blockName "model " line := by
  rw [kind?] at sorted
  split at sorted
  · cases sorted
  · split at sorted
    · cases sorted
    · split at sorted
      · rename_i starts
        rw [Option.some.injEq, Kind.modelOpen.injEq] at sorted
        exact ⟨starts, sorted.symm⟩
      · split at sorted <;> cases sorted

theorem kind?_eq_content_iff {line : String} :
    kind? line = some .content ↔
      line ≠ "" ∧ (∀ key ∈ skippedStarts, startsWith key line = false) ∧
        startsWith "enum " line = false ∧ startsWith "model " line = false ∧
        line ≠ "\x7d" := by
  have counted : skippedStarts.any (startsWith · line) = false ↔
      ∀ key ∈ skippedStarts, startsWith key line = false := by
    simp [List.any_eq_false]
  rw [← counted, kind?]
  split
  · rename_i skipped
    rw [Bool.or_eq_true, decide_eq_true_eq] at skipped
    rcases skipped with rfl | skipped
    · simp
    · simp [skipped]
  · split
    · simp_all
    · split
      · simp_all
      · split <;> simp_all

end Line

def statements (text : String) : List Line :=
  (pieces '\n' text).filterMap Line.statement?

/-! ## Numbers do not count -/

theorem Scan.foldl_ofLines (raws : List String) :
    ∀ (number : Int) (s : Scan),
      (Line.ofLines number raws).foldl step s = (raws.filterMap Line.statement?).foldl step s := by
  induction raws with
  | nil => exact fun _ _ => rfl
  | cons raw rest ih =>
      intro number s
      rw [Line.ofLines, List.foldl_append, ih, List.filterMap_cons, Line.statement?]
      cases sorted : Line.kind? (trim raw) with
      | none => simp [Line.ofText?, sorted]
      | some kind => simp [Line.ofText?, sorted, step]

/-- A scan of a text reads its statements. -/
theorem Scan.run_linesOf (text : String) :
    run (linesOf text) = (statements text).foldl step {} := by
  rw [run, linesOf, foldl_ofLines, statements]

theorem Line.exists_raw_of_mem_ofLines {raws : List String} {line : Line} :
    ∀ {number : Int}, line ∈ ofLines number raws →
      ∃ raw ∈ raws, kind? (trim raw) = some line.kind ∧ line.text = trim raw := by
  induction raws with
  | nil => exact fun mem => by cases mem
  | cons raw rest ih =>
      intro number mem
      rcases List.mem_append.1 mem with here | later
      · have made := Option.mem_toList.1 here
        rw [ofText?, Option.map_eq_some_iff] at made
        obtain ⟨kind, sorted, rfl⟩ := made
        exact ⟨raw, List.mem_cons_self, sorted, rfl⟩
      · obtain ⟨raw, inside, read⟩ := ih later
        exact ⟨raw, List.mem_cons_of_mem _ inside, read⟩

/-! ## Texts on lines of their own -/

theorem statements_of_lineEnd_not_mem {s : String} (absent : '\n' ∉ s.toList) :
    statements s = (Line.statement? s).toList := by
  rw [statements, pieces_of_not_mem absent, List.filterMap_cons, List.filterMap_nil]
  cases Line.statement? s <;> rfl

@[simp] theorem statements_empty : statements "" = [] := by
  rw [statements_of_lineEnd_not_mem (by decide), Line.statement?_empty, Option.toList_none]

theorem statements_append_lineEnd (s t : String) :
    statements (s ++ "\n" ++ t) = statements s ++ statements t := by
  rw [statements, pieces_append_lineEnd, List.filterMap_append, statements, statements]

theorem statements_append_blankLine (s t : String) :
    statements (s ++ "\n\n" ++ t) = statements s ++ statements t := by
  have apart : s ++ "\n\n" ++ t = s ++ "\n" ++ ("" ++ "\n" ++ t) := by
    simp [String.append_assoc, ← String.toList_inj]
  rw [apart, statements_append_lineEnd, statements_append_lineEnd, statements_empty,
    List.nil_append]

theorem statements_join_lineEnd {lines : List String} (each : ∀ s ∈ lines, '\n' ∉ s.toList) :
    statements (join "\n" lines) = lines.filterMap Line.statement? := by
  induction lines with
  | nil => rw [join, statements_empty, List.filterMap_nil]
  | cons s rest ih =>
      have here := statements_of_lineEnd_not_mem (each s List.mem_cons_self)
      have there := ih fun t ht => each t (List.mem_cons_of_mem _ ht)
      cases rest with
      | nil =>
          rw [join, here, List.filterMap_eq_flatMap_toList, List.flatMap_singleton]
      | cons t rest =>
          rw [join, statements_append_lineEnd, here, there, List.filterMap_eq_flatMap_toList,
            List.filterMap_eq_flatMap_toList]
          rfl

theorem statements_join_blankLine (texts : List String) :
    statements (join "\n\n" texts) = texts.flatMap statements := by
  induction texts with
  | nil => rw [join, statements_empty, List.flatMap_nil]
  | cons s rest ih =>
      cases rest with
      | nil => rw [join, List.flatMap_singleton]
      | cons t rest => rw [join, statements_append_blankLine, ih, ← List.flatMap_cons]

/-! ## Printed blocks -/

/-- What the opening line of a printed block names it. -/
def printedName (name : String) : String :=
  stripBlanks (removeFirst "\x7b" (name ++ " \x7b"))

def openingLine (keyword name : String) : String :=
  keyword ++ " " ++ name ++ " \x7b"

theorem openingLine_eq (keyword name : String) :
    openingLine keyword name = keyword ++ " " ++ (name ++ " \x7b") := by
  rw [openingLine, String.append_assoc]

theorem startsWith_openingLine (keyword name : String) :
    startsWith (keyword ++ " ") (openingLine keyword name) = true := by
  rw [startsWith_iff, openingLine_eq, String.toList_append (t := name ++ " \x7b")]
  exact List.prefix_append _ _

theorem trim_openingLine {keyword : String}
    (start : (keyword ++ " ").toList.head?.any (fun c => !isBlank c && !isMark c) = true)
    (name : String) : trim (openingLine keyword name) = openingLine keyword name :=
  trim_enclosed start (by decide) name

theorem blockName_openingLine (keyword name : String) :
    Line.blockName (keyword ++ " ") (openingLine keyword name) = printedName name := by
  have nonempty : keyword ++ " " ≠ "" := by simp
  rw [Line.blockName, openingLine_eq, removeFirst_append nonempty, printedName]

theorem statement?_openModel (name : String) :
    Line.statement? (openingLine "model" name) =
      some ⟨.modelOpen (printedName name), openingLine "model" name, 0⟩ := by
  have keyword : "model" ++ " " = "model " := by decide
  have trimmed : trim (openingLine "model" name) = openingLine "model" name :=
    trim_openingLine (by decide) name
  have starts := startsWith_openingLine "model" name
  have named := blockName_openingLine "model" name
  rw [keyword] at starts named
  have sorted := Line.kind?_of_model starts
  rw [named, ← trimmed] at sorted
  rw [Line.statement?_of_kind sorted, trimmed]

theorem statement?_openEnum (name : String) :
    Line.statement? (openingLine "enum" name) =
      some ⟨.enumOpen (printedName name), openingLine "enum" name, 0⟩ := by
  have keyword : "enum" ++ " " = "enum " := by decide
  have trimmed : trim (openingLine "enum" name) = openingLine "enum" name :=
    trim_openingLine (by decide) name
  have starts := startsWith_openingLine "enum" name
  have named := blockName_openingLine "enum" name
  rw [keyword] at starts named
  have sorted := Line.kind?_of_enum starts
  rw [named, ← trimmed] at sorted
  rw [Line.statement?_of_kind sorted, trimmed]

/-- The closing brace of a block. -/
def closingLine : Line :=
  ⟨.blockClose, "\x7d", 0⟩

theorem statements_closing : statements "\x7d" = [closingLine] := by
  rw [statements_of_lineEnd_not_mem (by decide), Line.statement?_closing]
  rfl

theorem statements_renderBlock {keyword name : String} {lines : List String}
    (inKeyword : '\n' ∉ keyword.toList) (inName : '\n' ∉ name.toList)
    (inLines : ∀ line ∈ lines, '\n' ∉ line.toList) :
    statements (renderBlock keyword name lines) =
      (Line.statement? (openingLine keyword name)).toList ++
        lines.filterMap Line.statement? ++ [closingLine] := by
  have apart : renderBlock keyword name lines =
      openingLine keyword name ++ "\n" ++ join "\n" (lines.map ("  " ++ ·)) ++ "\n" ++ "\x7d" := by
    simp [renderBlock, openingLine, String.append_assoc]
  have inOpening : '\n' ∉ (openingLine keyword name).toList := by
    simp [openingLine, inKeyword, inName]
  have indented : ∀ line ∈ lines.map ("  " ++ ·), '\n' ∉ line.toList := by
    simpa using inLines
  have unindented : Line.statement? ∘ ("  " ++ ·) = Line.statement? :=
    funext Line.statement?_indented
  rw [apart, statements_append_lineEnd, statements_append_lineEnd, statements_closing,
    statements_of_lineEnd_not_mem inOpening, statements_join_lineEnd indented,
    List.filterMap_map, unindented]

/-! ## Printed schemas -/

theorem statements_append_end (s : String) : statements (s ++ "\n\n") = statements s := by
  have alone := statements_append_blankLine s ""
  rwa [String.append_empty, statements_empty, List.append_nil] at alone

theorem statements_preamble (p : Preamble) :
    statements p.render =
      statements (renderBlock "generator" p.generatorName
          ["provider = \"" ++ p.generatorProvider ++ "\""]) ++
        statements (renderBlock "datasource" p.datasourceName
          ["provider = \"" ++ p.datasourceProvider ++ "\"",
            "url      = env(\"" ++ p.urlEnv ++ "\")"]) := by
  rw [Preamble.render, statements_append_end, statements_append_blankLine]

theorem statements_preamble_append (p : Preamble) (rest : String) :
    statements (p.render ++ rest) = statements p.render ++ statements rest := by
  rw [Preamble.render, statements_append_blankLine, statements_append_end]

theorem statements_renderSchema (p : Preamble) (models : List Model) (enums : List Enumeration) :
    statements (renderSchema p models enums) =
      statements p.render ++ enums.flatMap (fun e => statements e.render) ++
        models.flatMap fun m => statements m.render := by
  have inEnums := statements_join_blankLine (enums.map (·.render))
  have inModels := statements_join_blankLine (models.map (·.render))
  rw [List.flatMap_map] at inEnums inModels
  rw [renderSchema, String.append_assoc, statements_preamble_append, List.append_assoc, ← inEnums,
    ← inModels]
  split
  · rename_i noText
    rw [noText, statements_empty, String.empty_append, List.nil_append]
  · rw [statements_append_blankLine]

end SchemaDiagram
