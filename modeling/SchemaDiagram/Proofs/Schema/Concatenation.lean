/-
# SchemaDiagram.Proofs.Schema.Concatenation -- one text below another

A scan only adds to what it has found.  So behind a text that leaves no block open, the
next text is read as if it stood alone, and what it gives is added (`run_append`).

The edges of both texts share their keys and their numbers.  Those of the text above
stay as they are.  Of those below, the ones whose key has been drawn above are left
out, and the number of each other one is larger by the number of relations above
(`Renumbered`), also behind an edge that is left out (`ofText_append`).
-/
import Mathlib.Data.List.Forall2
import SchemaDiagram.Proofs.Schema.Drawing
import SchemaDiagram.Proofs.Schema.Preamble

namespace SchemaDiagram

set_option autoImplicit false

/-! ## Scans -/

namespace Scan

/-- What a scan finds, added to what another one has found above. -/
def below (s above : Scan) : Scan where
  models := above.models ++ s.models
  enums := above.enums ++ s.enums
  relations := above.relations ++ s.relations
  openModel := s.openModel
  openEnum := s.openEnum

theorem addField_below (s above : Scan) (m : Model) (line : String) :
    (s.below above).addField m line = (s.addField m line).below above := by
  rw [addField, addField]
  cases Field.ofLine? line with
  | none => rfl
  | some f => simp [below]

theorem addContent_below (s above : Scan) (line : String) :
    (s.below above).addContent line = (s.addContent line).below above := by
  obtain ⟨models, enums, relations, openModel, openEnum⟩ := s
  cases openEnum with
  | some e => rfl
  | none =>
      cases openModel with
      | none => rfl
      | some m => exact addField_below _ above m line

theorem step_below (s above : Scan) (line : Line) :
    (s.below above).step line = (s.step line).below above := by
  cases kind : line.kind with
  | enumOpen name =>
      rw [step, step, kind]
      rfl
  | modelOpen name =>
      rw [step, step, kind]
      rfl
  | blockClose => simp [step, kind, close, below]
  | content =>
      rw [step, step, kind]
      exact addContent_below s above line.text

theorem foldl_step_below (lines : List Line) :
    ∀ s above : Scan, lines.foldl step (s.below above) = (lines.foldl step s).below above := by
  induction lines with
  | nil => exact fun _ _ => rfl
  | cons line rest ih =>
      intro s above
      rw [List.foldl_cons, List.foldl_cons, step_below, ih]

/-- A scan with no block open is as good as one that has only begun. -/
theorem Idle.below {s : Scan} (idle : s.Idle) : Scan.below {} s = s := by
  obtain ⟨noModel, noEnum⟩ := idle
  cases s
  simp_all [Scan.below]

theorem run_append {a : String} (idle : (run (linesOf a)).Idle) (b : String) :
    run (linesOf (a ++ "\n" ++ b)) = (run (linesOf b)).below (run (linesOf a)) := by
  rw [run_linesOf (a ++ "\n" ++ b), statements_append_lineEnd, List.foldl_append,
    ← run_linesOf a, run_linesOf b, ← foldl_step_below, idle.below]

end Scan

/-! ## Edges -/

namespace Edge

/-- The same relation, drawn under a number that is larger by `n`. -/
def Renumbered (n : Nat) (e e' : Edge) : Prop :=
  ∃ (r : Relation) (i : Nat), e = r.edge i ∧ e' = r.edge (i + n)

/-- Behind the keys `above` are left out, and the other numbers are larger by `n`. -/
theorem renumbered_ofRelationsFrom {above : List String} {n : Nat} {relations : List Relation} :
    ∀ {drawn both : List String} {index : Nat}, (∀ key, key ∈ both ↔ key ∈ above ∨ key ∈ drawn) →
      List.Forall₂ (Renumbered n)
        ((ofRelationsFrom drawn index relations).filter fun e => e.key ∉ above)
        (ofRelationsFrom both (index + n) relations) := by
  induction relations with
  | nil => exact fun _ => .nil
  | cons r rest ih =>
      intro drawn both index known
      have next : index + n + 1 = index + 1 + n := by omega
      rw [ofRelationsFrom, ofRelationsFrom, next]
      by_cases below : r.key ∈ drawn
      · have either : r.key ∈ both := (known _).2 (.inr below)
        rw [if_pos (List.contains_iff_mem.2 below), if_pos (List.contains_iff_mem.2 either)]
        exact ih known
      · rw [if_neg (mt List.contains_iff_mem.1 below)]
        have keyed : (r.edge index).key = r.key := rfl
        by_cases here : r.key ∈ above
        · -- The edge is left out, but from here on its key counts as drawn.
          have either : r.key ∈ both := (known _).2 (.inl here)
          rw [List.filter_cons_of_neg (by simpa [keyed] using here),
            if_pos (List.contains_iff_mem.2 either)]
          refine ih fun key => ?_
          rw [known, List.mem_cons]
          grind
        · have neither : r.key ∉ both := fun either => ((known _).1 either).elim here below
          rw [List.filter_cons_of_pos (by simpa [keyed] using here),
            if_neg (mt List.contains_iff_mem.1 neither)]
          refine .cons ⟨r, index, rfl, rfl⟩ (ih fun key => ?_)
          rw [List.mem_cons, List.mem_cons, known]
          grind

end Edge

namespace Schema

/-- **A text below one that leaves no block open** is read as if it stood alone.  Its models,
enums and edges come behind those from above, which stay as they are; of its edges those
whose key is drawn above are left out, and the numbers of the others go on from above. -/
theorem ofText_append (a b : String) (idle : (Scan.run (linesOf a)).Idle) :
    let first := ofText a false
    let second := ofText b false
    let whole := ofText (a ++ "\n" ++ b) false
    whole.models = first.models ++ second.models ∧ whole.enums = first.enums ++ second.enums ∧
      ∃ rest, whole.edges = first.edges ++ rest ∧
        List.Forall₂ (Edge.Renumbered (Scan.run (linesOf a)).relations.length)
          (second.edges.filter fun e => e.key ∉ first.edges.map (·.key)) rest := by
  intro first second whole
  have scanned := Scan.run_append idle b
  refine ⟨?_, ?_, ?_⟩
  · simp only [whole, ofText, scanned]
    rfl
  · simp only [whole, ofText, scanned]
    rfl
  · have edges : whole.edges = Edge.ofRelations
        ((Scan.run (linesOf a)).relations ++ (Scan.run (linesOf b)).relations) := by
      simp only [whole, ofText, scanned]
      rfl
    rw [edges, Edge.ofRelations, Edge.ofRelationsFrom_append]
    refine ⟨_, rfl, Edge.renumbered_ofRelationsFrom fun key => ?_⟩
    rw [List.append_nil, or_iff_left List.not_mem_nil]
    exact Edge.mem_keys_ofRelations_iff.symm

/-- The relation to `B` is drawn above and left out below, where it still counts: the
edge to `C` gets the number 3. -/
theorem ofText_append_shared_key :
    let a := "model A \x7b\n  b B\n  c C\n\x7d"
    let b := "model A \x7b\n  b B\n\x7d\nmodel B \x7b\n  c C\n\x7d"
    let first := ofText a false
    let second := ofText b false
    let whole := ofText (a ++ "\n" ++ b) false
    (Scan.run (linesOf a)).Idle ∧ whole.models = first.models ++ second.models ∧
      whole.enums = first.enums ++ second.enums ∧
        ∃ rest, whole.edges = first.edges ++ rest ∧
          List.Forall₂ (Edge.Renumbered 2)
            (second.edges.filter fun e => e.key ∉ first.edges.map (·.key)) rest := by
  intro a b first second whole
  have idle : (Scan.run (linesOf a)).Idle := ⟨by decide +kernel, by decide +kernel⟩
  have two : (Scan.run (linesOf a)).relations.length = 2 := by decide +kernel
  obtain ⟨models, enums, edges⟩ := ofText_append a b idle
  exact ⟨idle, models, enums, two ▸ edges⟩

end Schema

end SchemaDiagram
