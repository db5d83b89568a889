/-
# SchemaDiagram.Proofs.Check.Report -- what findings add up to

A report holds the findings that it was made of, in order (`findings_ofFindings`), and it
is valid iff none of them is an error, that is, iff it lists no errors
(`valid_ofFindings_iff_errors`).
-/
import SchemaDiagram.Check.Report

namespace SchemaDiagram.Report

set_option autoImplicit false

variable {fs : List Finding}

theorem foldl_add (r : Report) :
    fs.foldl add r =
      { valid := r.valid && fs.all (·.severity != .error), findings := r.findings ++ fs } := by
  induction fs generalizing r with
  | nil => simp
  | cons f rest ih =>
      rw [List.foldl_cons, ih, add, List.all_cons, Bool.and_assoc, List.append_assoc,
        List.singleton_append]

@[simp] theorem findings_ofFindings (fs : List Finding) : (ofFindings fs).findings = fs := by
  rw [ofFindings, foldl_add, List.nil_append]

theorem valid_ofFindings_iff :
    (ofFindings fs).valid = true ↔ ∀ f ∈ fs, f.severity ≠ .error := by
  rw [ofFindings, foldl_add, Bool.true_and, List.all_eq_true]
  simp only [bne_iff_ne]

theorem errors_eq_nil_iff {r : Report} :
    r.errors = [] ↔ ∀ f ∈ r.findings, f.severity ≠ .error := by
  simp only [errors, messages, List.map_eq_nil_iff, List.filter_eq_nil_iff, beq_iff_eq, Ne]

theorem valid_ofFindings_iff_errors :
    (ofFindings fs).valid = true ↔ (ofFindings fs).errors = [] := by
  rw [valid_ofFindings_iff, errors_eq_nil_iff, findings_ofFindings]

/-- Where every finding is an error, the report lists the messages of all. -/
theorem errors_of_forall {r : Report} (each : ∀ f ∈ r.findings, f.severity = .error) :
    r.errors = r.findings.map (·.message) := by
  have all : ∀ f ∈ r.findings, (f.severity == .error) = true := fun f inside =>
    beq_iff_eq.2 (each f inside)
  rw [errors, messages, List.filter_eq_self.2 all]

end SchemaDiagram.Report
