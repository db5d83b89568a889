/-
# SchemaDiagram.Proofs.Schema.Preamble -- what a preamble leaves behind

Nothing of a preamble is kept unless one of its lines opens an enum or a model
(`scan_empty_iff`).  None does if no line end stands in the names that it is filled
with (`opensNothing_of_oneLine`).  In any case its last brace closes what is open
(`idle_scan`), so a line that opens a block leaves a closed one.
-/
import SchemaDiagram.Proofs.Schema.Statement

namespace SchemaDiagram

set_option autoImplicit false

open Text

/-! ## Lines that open a block -/

def Line.Opens (line : Line) : Prop :=
  ∃ name, line.kind = .enumOpen name ∨ line.kind = .modelOpen name

theorem Line.not_opens {raw : String} {line : Line} (made : Line.statement? raw = some line)
    (noEnum : startsWith "enum " (trim raw) = false)
    (noModel : startsWith "model " (trim raw) = false) : ¬ line.Opens := by
  rintro ⟨name, kind⟩
  have sorted := (Line.statement?_eq_some_iff.1 made).1
  rcases kind with kind | kind
  · simp [(Line.of_enumOpen (kind ▸ sorted)).1] at noEnum
  · simp [(Line.of_modelOpen (kind ▸ sorted)).1] at noModel

/-- A text opens no block iff none of its lines starts like one that does. -/
theorem not_opens_statements_iff {text : String} :
    (∀ line ∈ statements text, ¬ line.Opens) ↔
      ∀ raw ∈ pieces '\n' text,
        startsWith "enum " (trim raw) = false ∧ startsWith "model " (trim raw) = false := by
  simp only [statements, List.mem_filterMap]
  constructor
  · intro noneOpens raw inside
    constructor
    · rw [← Bool.not_eq_true]
      intro starts
      have made := Line.statement?_of_kind (Line.kind?_of_enum starts)
      exact noneOpens _ ⟨raw, inside, made⟩ ⟨_, .inl rfl⟩
    · rw [← Bool.not_eq_true]
      intro starts
      have made := Line.statement?_of_kind (Line.kind?_of_model starts)
      exact noneOpens _ ⟨raw, inside, made⟩ ⟨_, .inr rfl⟩
  · rintro noneStarts line ⟨raw, inside, made⟩
    exact Line.not_opens made (noneStarts raw inside).1 (noneStarts raw inside).2

namespace Scan

/-- No block is open. -/
structure Idle (s : Scan) : Prop where
  openModel : s.openModel = none
  openEnum : s.openEnum = none

/-- Some block is open or has been read. -/
def Touched (s : Scan) : Prop :=
  s.models ≠ [] ∨ s.enums ≠ [] ∨ s.openModel ≠ none ∨ s.openEnum ≠ none

theorem touched_of_opens {line : Line} (opens : line.Opens) (s : Scan) :
    (s.step line).Touched := by
  obtain ⟨name, kind | kind⟩ := opens
  · exact .inr (.inr (.inr (by simp [step, kind])))
  · exact .inr (.inr (.inl (by simp [step, kind])))

theorem touched_step {s : Scan} (touched : s.Touched) (line : Line) : (s.step line).Touched := by
  cases kind : line.kind with
  | enumOpen name => exact touched_of_opens ⟨name, .inl kind⟩ s
  | modelOpen name => exact touched_of_opens ⟨name, .inr kind⟩ s
  | blockClose =>
      rcases touched with nonempty | nonempty | opened | opened
      · exact .inl (by simp [step, kind, close, nonempty])
      · exact .inr (.inl (by simp [step, kind, close, nonempty]))
      · exact .inl (by simp [step, kind, close, Option.toList_eq_nil_iff, opened])
      · exact .inr (.inl (by simp [step, kind, close, Option.toList_eq_nil_iff, opened]))
  | content =>
      rw [Touched, step, kind]
      dsimp only
      rw [addContent]
      split
      · simp
      · rw [addField]
        split
        · exact touched
        · simp
      · exact touched

theorem touched_foldl {lines : List Line} {s : Scan} (touched : s.Touched) :
    (lines.foldl step s).Touched := by
  induction lines generalizing s with
  | nil => exact touched
  | cons line rest ih => exact ih (touched_step touched line)

theorem step_start {line : Line} (opensNone : ¬ line.Opens) : step {} line = {} := by
  cases kind : line.kind with
  | enumOpen name => exact absurd ⟨name, .inl kind⟩ opensNone
  | modelOpen name => exact absurd ⟨name, .inr kind⟩ opensNone
  | blockClose => simp [step, kind, close]
  | content => simp [step, kind, addContent]

/-- Lines leave nothing behind iff none of them opens a block. -/
theorem foldl_start (lines : List Line) :
    ((∀ line ∈ lines, ¬ line.Opens) ∧ lines.foldl step {} = {}) ∨
      ((∃ line ∈ lines, line.Opens) ∧ (lines.foldl step {}).Touched) := by
  induction lines with
  | nil => exact .inl ⟨by simp, rfl⟩
  | cons line rest ih =>
      rw [List.foldl_cons]
      by_cases opens : line.Opens
      · exact .inr ⟨⟨line, by simp, opens⟩, touched_foldl (touched_of_opens opens _)⟩
      · rw [step_start opens]
        rcases ih with ⟨noneOpens, same⟩ | ⟨⟨other, inside, opensOther⟩, touched⟩
        · exact .inl ⟨List.forall_mem_cons.2 ⟨opens, noneOpens⟩, same⟩
        · exact .inr ⟨⟨other, List.mem_cons_of_mem _ inside, opensOther⟩, touched⟩

end Scan

/-! ## Preambles -/

namespace Preamble

/-- What is read of a preamble. -/
def scan (p : Preamble) : Scan :=
  (statements p.render).foldl Scan.step {}

/-- A printed block ends with its closing brace. -/
theorem statements_renderBlock_last (keyword name : String) (lines : List String) :
    ∃ front, statements (renderBlock keyword name lines) = front ++ [closingLine] := by
  have apart : renderBlock keyword name lines =
      keyword ++ " " ++ name ++ " \x7b\n" ++ join "\n" (lines.map ("  " ++ ·)) ++ "\n" ++
        "\x7d" := by
    simp [renderBlock, String.append_assoc]
  exact ⟨_, by rw [apart, statements_append_lineEnd, statements_closing]⟩

/-- A preamble leaves no block open. -/
theorem idle_scan (p : Preamble) : p.scan.Idle := by
  obtain ⟨front, last⟩ := statements_renderBlock_last "datasource" p.datasourceName
    ["provider = \"" ++ p.datasourceProvider ++ "\"", "url      = env(\"" ++ p.urlEnv ++ "\")"]
  rw [scan, statements_preamble, last, ← List.append_assoc, List.foldl_append]
  exact ⟨rfl, rfl⟩

/-- None of its lines starts like one that opens a block. -/
def OpensNothing (p : Preamble) : Prop :=
  ∀ raw ∈ pieces '\n' p.render,
    startsWith "enum " (trim raw) = false ∧ startsWith "model " (trim raw) = false

theorem scan_of_opensNothing {p : Preamble} (inert : p.OpensNothing) : p.scan = {} := by
  rcases Scan.foldl_start (statements p.render) with ⟨-, same⟩ | ⟨⟨line, inside, opens⟩, -⟩
  · rw [scan, same]
  · exact absurd opens (not_opens_statements_iff.2 inert line inside)

/-- A preamble leaves blocks behind unless it opens none. -/
theorem scan_empty_iff {p : Preamble} :
    (p.scan.models = [] ∧ p.scan.enums = []) ↔ p.OpensNothing := by
  constructor
  · rintro ⟨noModels, noEnums⟩
    rcases Scan.foldl_start (statements p.render) with ⟨noneOpens, -⟩ | ⟨-, touched⟩
    · exact not_opens_statements_iff.1 noneOpens
    · obtain ⟨noModel, noEnum⟩ := idle_scan p
      rcases touched with nonempty | nonempty | opened | opened
      · exact absurd noModels nonempty
      · exact absurd noEnums nonempty
      · exact absurd noModel opened
      · exact absurd noEnum opened
  · intro inert
    rw [scan_of_opensNothing inert]
    exact ⟨rfl, rfl⟩

/-- No line end stands in a name or a value that the preamble is filled with. -/
structure OneLine (p : Preamble) : Prop where
  generatorName : '\n' ∉ p.generatorName.toList
  generatorProvider : '\n' ∉ p.generatorProvider.toList
  datasourceName : '\n' ∉ p.datasourceName.toList
  datasourceProvider : '\n' ∉ p.datasourceProvider.toList
  urlEnv : '\n' ∉ p.urlEnv.toList

/-- A printed block whose lines start like none that opens an enum or a model. -/
theorem not_opens_renderBlock {keyword name : String} {lines : List String}
    (inKeyword : '\n' ∉ keyword.toList) (inName : '\n' ∉ name.toList)
    (inLines : ∀ line ∈ lines, '\n' ∉ line.toList)
    (starts : ∀ raw ∈ openingLine keyword name :: lines,
      ∃ key, startsWith key (trim raw) = true ∧ ∀ opener ∈ ["enum ", "model "],
        startsWith key opener = false ∧ startsWith opener key = false) :
    ∀ line ∈ statements (renderBlock keyword name lines), ¬ line.Opens := by
  have unopened : ∀ raw ∈ openingLine keyword name :: lines, ∀ line ∈ Line.statement? raw,
      ¬ line.Opens := by
    intro raw member line made
    obtain ⟨key, start, apart⟩ := starts raw member
    obtain ⟨keyEnum, enumKey⟩ := apart "enum " (by simp)
    obtain ⟨keyModel, modelKey⟩ := apart "model " (by simp)
    exact Line.not_opens made (startsWith_of_startsWith start keyEnum enumKey)
      (startsWith_of_startsWith start keyModel modelKey)
  intro line member
  rw [statements_renderBlock inKeyword inName inLines, List.mem_append, List.mem_append,
    Option.mem_toList, List.mem_filterMap, List.mem_singleton] at member
  rcases member with (opening | ⟨raw, inside, made⟩) | rfl
  · exact unopened _ List.mem_cons_self line opening
  · exact unopened raw (List.mem_cons_of_mem _ inside) line made
  · rintro ⟨opened, kind | kind⟩ <;> cases kind

theorem opensNothing_of_oneLine {p : Preamble} (oneLine : p.OneLine) : p.OpensNothing := by
  refine not_opens_statements_iff.1 fun line member => ?_
  rw [statements_preamble, List.mem_append] at member
  have start (front back s : String)
      (first : front.toList.head?.any (fun c => !isBlank c && !isMark c) = true)
      (last : back.toList.getLast?.any (fun c => !isBlank c && !isMark c) = true) :
      startsWith front (trim (front ++ s ++ back)) = true := by
    rw [trim_enclosed first last, String.append_assoc, startsWith_iff, String.toList_append]
    exact List.prefix_append _ _
  rcases member with member | member
  · refine not_opens_renderBlock (by decide) oneLine.generatorName ?_ ?_ line member
    · simpa using oneLine.generatorProvider
    · rintro raw (_ | ⟨_, _ | ⟨_, ⟨⟩⟩⟩)
      · exact ⟨_, start ("generator" ++ " ") " \x7b" _ (by decide) (by decide), by decide⟩
      · exact ⟨_, start _ _ _ (by decide) (by decide), by decide⟩
  · refine not_opens_renderBlock (by decide) oneLine.datasourceName ?_ ?_ line member
    · simpa using ⟨oneLine.datasourceProvider, oneLine.urlEnv⟩
    · rintro raw (_ | ⟨_, _ | ⟨_, _ | ⟨_, ⟨⟩⟩⟩⟩)
      · exact ⟨_, start ("datasource" ++ " ") " \x7b" _ (by decide) (by decide), by decide⟩
      · exact ⟨_, start _ _ _ (by decide) (by decide), by decide⟩
      · exact ⟨_, start _ _ _ (by decide) (by decide), by decide⟩

end Preamble

end SchemaDiagram
