/-
# SchemaDiagram.Proofs.Check.SchemaText -- the first look and the reading of a text

Before a text is read, its trimmed lines are looked through for one that starts with
`model `.  These are the lines that open a model for the reader too
(`any_opensModel_iff`), and every model that is read is opened by one of them.  So a text
of which a model is read is neither found empty nor found without models
(`checkSchemaText_agrees`).
-/
import SchemaDiagram.Check.SchemaText
import SchemaDiagram.Proofs.Check.Report
import SchemaDiagram.Proofs.Schema.Origin

namespace SchemaDiagram

set_option autoImplicit false

open Text

/-! ## Lines that open a model -/

def Line.OpensModel (line : Line) : Prop :=
  ∃ name, line.kind = .modelOpen name

theorem opensModel_iff {raw : String} :
    opensModel raw = true ↔ ∃ name, Line.kind? (trim raw) = some (.modelOpen name) := by
  constructor
  · exact fun starts => ⟨_, Line.kind?_of_model starts⟩
  · exact fun ⟨_, sorted⟩ => (Line.of_modelOpen sorted).1

theorem Line.exists_mem_ofLines {raws : List String} {raw : String} (inside : raw ∈ raws)
    {kind : Kind} (sorted : kind? (trim raw) = some kind) (number : Int) :
    ∃ line ∈ ofLines number raws, line.kind = kind := by
  induction raws generalizing number with
  | nil => cases inside
  | cons first rest ih =>
      rw [ofLines]
      rcases List.mem_cons.1 inside with rfl | later
      · refine ⟨⟨kind, trim raw, number⟩, List.mem_append_left _ ?_, rfl⟩
        rw [ofText?, sorted]
        exact List.mem_singleton_self _
      · obtain ⟨line, member, same⟩ := ih later (number + 1)
        exact ⟨line, List.mem_append_right _ member, same⟩

/-- The first look and the reader see the same lines open a model. -/
theorem any_opensModel_iff {text : String} :
    (pieces '\n' text).any opensModel = true ↔ ∃ line ∈ linesOf text, line.OpensModel := by
  rw [List.any_eq_true]
  constructor
  · rintro ⟨raw, piece, opens⟩
    obtain ⟨name, sorted⟩ := opensModel_iff.1 opens
    obtain ⟨line, inside, kind⟩ := Line.exists_mem_ofLines piece sorted 1
    exact ⟨line, inside, name, kind⟩
  · rintro ⟨line, inside, name, kind⟩
    obtain ⟨raw, piece, sorted, -⟩ := Line.exists_raw_of_mem_ofLines inside
    exact ⟨raw, piece, opensModel_iff.2 ⟨name, kind ▸ sorted⟩⟩

theorem noModelFindings_eq_nil_iff {text : String} :
    noModelFindings text = [] ↔ ∃ line ∈ linesOf text, line.OpensModel := by
  rw [noModelFindings, ← any_opensModel_iff]
  split
  · rename_i opens
    exact iff_of_true rfl opens
  · rename_i noneOpens
    exact iff_of_false (List.cons_ne_nil _ _) noneOpens

/-- A text with a line that opens a model is not trimmed away. -/
theorem trim_ne_empty_of_opensModel {text : String}
    (opens : ∃ line ∈ linesOf text, line.OpensModel) : trim text ≠ "" := by
  obtain ⟨raw, piece, opening⟩ := List.any_eq_true.1 (any_opensModel_iff.2 opens)
  obtain ⟨rest, starts⟩ := startsWith_iff.1 opening
  have letter : 'm' ∈ (trim raw).toList := by
    rw [← starts]
    exact List.mem_cons_self
  rw [toList_trim] at letter
  have inText : 'm' ∈ text.toList :=
    subset_of_mem_pieces piece ((trimChars_part raw.toList).subset letter)
  have kept : 'm' ∈ (trim text).toList := by
    rw [toList_trim]
    exact mem_trimChars inText (by decide) (by decide)
  intro empty
  rw [empty] at kept
  cases kept

/-! ## The report -/

theorem checkSchemaText_of_empty {text : String} (empty : trim text = "") :
    (checkSchemaText text).findings =
      [{ severity := .error, message := "Schema content is empty" }] := by
  rw [checkSchemaText, if_pos empty, Report.findings_ofFindings]

theorem checkSchemaText_of_not_empty {text : String} (nonempty : trim text ≠ "") :
    (checkSchemaText text).findings = noModelFindings text ++ braceFindings text := by
  rw [checkSchemaText, if_neg nonempty, Report.findings_ofFindings]

theorem checkSchemaText_valid_iff_errors {text : String} :
    (checkSchemaText text).valid = true ↔ (checkSchemaText text).errors = [] := by
  rw [checkSchemaText]
  split <;> exact Report.valid_ofFindings_iff_errors

theorem messages_braceFindings {text message : String}
    (reported : message ∈ (braceFindings text).map (·.message)) :
    message = "Mismatched braces in schema" := by
  rw [braceFindings] at reported
  split at reported
  · cases reported
  · exact List.mem_singleton.1 reported

theorem severity_of_mem_checkSchemaText {text : String} :
    ∀ f ∈ (checkSchemaText text).findings, f.severity = .error := by
  by_cases empty : trim text = ""
  · rw [checkSchemaText_of_empty empty]
    simp
  · rw [checkSchemaText_of_not_empty empty, List.forall_mem_append, noModelFindings,
      braceFindings]
    constructor
    · split <;> simp
    · split <;> simp

theorem errors_checkSchemaText {text : String} :
    (checkSchemaText text).errors = (checkSchemaText text).findings.map (·.message) :=
  Report.errors_of_forall severity_of_mem_checkSchemaText

theorem mem_errors_empty_iff {text : String} :
    "Schema content is empty" ∈ (checkSchemaText text).errors ↔ trim text = "" := by
  rw [errors_checkSchemaText]
  constructor
  · intro reported
    by_contra nonempty
    rw [checkSchemaText_of_not_empty nonempty, List.map_append, List.mem_append] at reported
    rcases reported with reported | reported
    · rw [noModelFindings] at reported
      split at reported
      · cases reported
      · exact absurd (List.mem_singleton.1 reported) (by decide)
    · exact absurd (messages_braceFindings reported) (by decide)
  · intro empty
    rw [checkSchemaText_of_empty empty]
    exact List.mem_singleton_self _

theorem mem_errors_noModels_iff {text : String} :
    "No models found in schema" ∈ (checkSchemaText text).errors ↔
      trim text ≠ "" ∧ ¬ ∃ line ∈ linesOf text, line.OpensModel := by
  rw [errors_checkSchemaText, ← any_opensModel_iff]
  by_cases empty : trim text = ""
  · rw [checkSchemaText_of_empty empty]
    simp [empty]
  · rw [checkSchemaText_of_not_empty empty, List.map_append, List.mem_append, noModelFindings,
      and_iff_right empty]
    have notBraces : "No models found in schema" ∉ (braceFindings text).map (·.message) :=
      fun reported => absurd (messages_braceFindings reported) (by decide)
    rw [or_iff_left notBraces]
    split
    · rename_i opens
      exact iff_of_false List.not_mem_nil (not_not.2 opens)
    · rename_i noneOpens
      exact iff_of_true (List.mem_singleton_self _) noneOpens

/-- **The first look refuses nothing for lack of models that can be read.**  A text of
which a model is read is neither reported empty nor without models.  The latter is
reported of those texts only that are not trimmed away and have no line that opens a
model.  A text reported empty has no other finding.  All findings are errors, and a text
is valid iff it has none. -/
theorem checkSchemaText_agrees (text : String) (resolveBackFields : Bool) :
    let report := checkSchemaText text
    ((Schema.ofText text resolveBackFields).models ≠ [] →
        "Schema content is empty" ∉ report.errors ∧
          "No models found in schema" ∉ report.errors) ∧
      ("No models found in schema" ∈ report.errors ↔
        trim text ≠ "" ∧ ¬ ∃ line ∈ linesOf text, line.OpensModel) ∧
      ("Schema content is empty" ∉ report.errors ∨
        report.errors = ["Schema content is empty"]) ∧
      report.findings.map (·.message) = report.errors ∧
      (report.valid = true ↔ report.errors = []) := by
  intro report
  refine ⟨fun nonempty => ?_, mem_errors_noModels_iff, ?_, errors_checkSchemaText.symm,
    checkSchemaText_valid_iff_errors⟩
  · obtain ⟨m, member⟩ := List.exists_mem_of_ne_nil _ nonempty
    obtain ⟨line, inside, kind⟩ := Schema.exists_opening_of_mem_models member
    have opens : ∃ line ∈ linesOf text, line.OpensModel := ⟨line, inside, m.name, kind⟩
    rw [mem_errors_empty_iff, mem_errors_noModels_iff]
    exact ⟨trim_ne_empty_of_opensModel opens, fun missing => missing.2 opens⟩
  · rw [mem_errors_empty_iff]
    by_cases empty : trim text = ""
    · right
      rw [errors_checkSchemaText, checkSchemaText_of_empty empty]
      rfl
    · exact .inl empty

/-- A model behind a byte-order mark, with a brace too many. -/
theorem checkSchemaText_agrees_marked :
    let text := "\uFEFF model A \x7b\n\x7d\n\x7d"
    (Schema.ofText text true).models ≠ [] ∧
      "Schema content is empty" ∉ (checkSchemaText text).errors ∧
      "No models found in schema" ∉ (checkSchemaText text).errors ∧
      (checkSchemaText text).valid = false := by
  intro text
  have nonempty : (Schema.ofText text true).models ≠ [] := by decide +kernel
  have clear := (checkSchemaText_agrees text true).1 nonempty
  exact ⟨nonempty, clear.1, clear.2, by decide +kernel⟩

end SchemaDiagram
