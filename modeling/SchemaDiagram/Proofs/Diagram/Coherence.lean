/-
# SchemaDiagram.Proofs.Diagram.Coherence -- edges and the fields they come from

A schema is `Coherent` if each edge is declared by a model: it has the name and the
target of a relation field of it.  After an edit to a model, each edge still leaves
a model from a relation field.  If the edit keeps the references of the model, that
field still names the target that the edge had before (`edges_after_edit`).

Edges follow a new name, but the fields of other models do not.  So the schema is
coherent again unless the edit renames a model that an edge points at; then it need
not be (`rename_of_target_not_coherent`).

Adding a field and renaming keep all references.  In a model whose field names differ,
removing a field keeps them, and so do a new type that makes no relation field
(`keepsReferences_retyped`) and every edit that leaves the types alone if the fields
refer by their types (`keepsReferences_of_isSteady`).
-/
import Mathlib.Data.List.Nodup
import SchemaDiagram.Proofs.Diagram.Renaming
import SchemaDiagram.Proofs.Schema.EdgeOrigin
import SchemaDiagram.Proofs.Schema.Editing

namespace SchemaDiagram

set_option autoImplicit false

/-! ## References that an edit keeps -/

namespace Model

/-- Some relation field of the model has that name and refers to that model. -/
def RefersTo (m : Model) (field target : String) : Prop :=
  ∃ f ∈ m.fields, f.isRelation = true ∧ f.name = field ∧ f.relationTo = some target

/-- Where a name of `new` still stands for a relation field, what it referred to in
`m` is not lost. -/
def KeepsReferences (m new : Model) : Prop :=
  ∀ field target, m.RefersTo field target → new.RelatesBy field → new.RefersTo field target

variable {m new : Model}

theorem RefersTo.relatesBy {field target : String} (refers : m.RefersTo field target) :
    m.RelatesBy field := by
  obtain ⟨f, inside, relation, named, -⟩ := refers
  exact ⟨f, inside, relation, named⟩

theorem keepsReferences_of_subset (kept : ∀ f ∈ m.fields, f ∈ new.fields) :
    m.KeepsReferences new := by
  rintro field target ⟨f, inside, refers⟩ -
  exact ⟨f, kept f inside, refers⟩

/-- No two fields of the model have one name. -/
def DistinctNames (m : Model) : Prop :=
  (m.fields.map (·.name)).Nodup

theorem keepsReferences_eraseIdx (distinct : m.DistinctNames) (i : Nat) :
    m.KeepsReferences { m with fields := m.fields.eraseIdx i } := by
  rintro _ target ⟨f, inside, relation, rfl, refers⟩ ⟨g, stays, relation', named⟩
  obtain rfl : g = f :=
    List.inj_on_of_nodup_map distinct (List.mem_of_mem_eraseIdx stays) inside named
  exact ⟨g, stays, relation', rfl, refers⟩

/-- A field that is no relation field in the place of another. -/
theorem keepsReferences_set_of_noRelation (distinct : m.DistinctNames) {i : Nat} {h : Field}
    (noRelation : h.isRelation = false) :
    m.KeepsReferences { m with fields := m.fields.set i h } := by
  rintro _ target ⟨f, inside, relation, rfl, refers⟩ ⟨g, placed, relation', named⟩
  rcases List.mem_or_eq_of_mem_set placed with kept | rfl
  · obtain rfl : g = f := List.inj_on_of_nodup_map distinct kept inside named
    exact ⟨g, placed, relation', rfl, refers⟩
  · rw [noRelation] at relation'
    cases relation'

/-- A field in the place of another of its type, under whatever name. -/
theorem keepsReferences_set (distinct : m.DistinctNames) (byType : m.RefersByType)
    {i : Fin m.fields.length} {h : Field} (refers : h.RefersByType)
    (sameType : h.type = (m.fields.get i).type) :
    m.KeepsReferences { m with fields := m.fields.set i h } := by
  rintro _ target ⟨f, inside, relation, rfl, aims⟩ ⟨g, placed, relation', named⟩
  rcases List.mem_or_eq_of_mem_set placed with kept | rfl
  · obtain rfl : g = f := List.inj_on_of_nodup_map distinct kept inside named
    exact ⟨g, placed, relation', rfl, aims⟩
  · obtain ⟨k, hk, rfl⟩ := List.getElem_of_mem inside
    by_cases here : k = i
    · -- The new field has the name and the type of the old one.
      refine ⟨g, placed, relation', named, ?_⟩
      subst here
      rw [refers, if_pos relation', ← aims, byType _ inside, if_pos relation, Field.baseType,
        Field.baseType, sameType]
      rfl
    · refine ⟨m.fields[k], List.mem_iff_getElem?.2 ⟨k, ?_⟩, relation, rfl, aims⟩
      rw [List.getElem?_set_ne (Ne.symm here), List.getElem?_eq_getElem hk]

namespace Edit

/-- An edit that keeps references.  To add a field and to rename the model always do.
To remove a field does if the names of the fields differ; so does every edit that
changes no type, if the fields also refer by their types.  Other edits may keep them
all the same. -/
def IsSteady (m new : Model) : Edit → Prop
  | addField _ => True
  | updateField _ changes =>
      (Members.get? "type" changes = none ∧ m.DistinctNames ∧ m.RefersByType) ∨
        m.KeepsReferences new
  | removeField _ => m.DistinctNames ∨ m.KeepsReferences new
  | toggleModifier _ _ => (m.DistinctNames ∧ m.RefersByType) ∨ m.KeepsReferences new
  | rename _ => True

/-- To retype a field so that it is no relation field keeps references. -/
theorem keepsReferences_retyped (distinct : m.DistinctNames) {index : Int} {changes : Members}
    (updated : apply m (.updateField index changes) = .ok new)
    (retyped : ∀ f, new.fields[index.toNat]? = some f → f.isRelation = false) :
    m.KeepsReferences new := by
  obtain ⟨i, h, rfl, -, -, rfl⟩ := updateFieldBy_eq_ok updated
  refine keepsReferences_set_of_noRelation distinct (retyped h ?_)
  rw [Int.toNat_natCast]
  exact List.getElem?_set_self i.isLt

theorem keepsReferences_of_isSteady {edit : Edit} (edited : edit.apply m = .ok new)
    (steady : edit.IsSteady m new) : m.KeepsReferences new := by
  cases edit with
  | addField d =>
      obtain ⟨f, -, rfl⟩ := addDraft_eq_ok edited
      exact keepsReferences_of_subset fun f inside => List.mem_append_left _ inside
  | updateField index changes =>
      rcases steady with ⟨untyped, distinct, byType⟩ | keeps
      · obtain ⟨i, h, -, derived, sameType, rfl⟩ := updateFieldBy_eq_ok edited
        exact keepsReferences_set distinct byType derived.refersByType (sameType untyped)
      · exact keeps
  | removeField index =>
      rcases steady with distinct | keeps
      · obtain ⟨i, -, rfl⟩ := removeField_eq_ok edited
        exact keepsReferences_eraseIdx distinct i
      · exact keeps
  | toggleModifier index modifier =>
      rcases steady with ⟨distinct, byType⟩ | keeps
      · obtain ⟨i, h, -, derived, sameType, rfl⟩ := toggleModifierBy_eq_ok edited
        exact keepsReferences_set distinct byType derived.refersByType sameType
      · exact keeps
  | rename name =>
      cases edited
      exact keepsReferences_of_subset fun _ inside => inside

end Edit

end Model

/-! ## Coherent schemas -/

instance (m : Model) (r : Relation) : Decidable (m.Declares r) :=
  inferInstanceAs (Decidable (m.name = r.source ∧ ∃ f ∈ m.fields,
    f.isRelation = true ∧ f.name = r.sourceField ∧ f.relationTo = some r.target))

/-- Each edge is declared by a model. -/
def Schema.Coherent (s : Schema) : Prop :=
  ∀ e ∈ s.edges, ∃ m ∈ s.models, m.Declares e.toRelation

instance (s : Schema) : Decidable s.Coherent :=
  inferInstanceAs (Decidable (∀ e ∈ s.edges, ∃ m ∈ s.models, m.Declares e.toRelation))

namespace Schema

variable {s : Schema} {m new : Model}

theorem Coherent.anchored (coherent : s.Coherent) : s.Anchored := by
  intro e inside
  obtain ⟨m, found, named, refers⟩ := coherent e inside
  exact ⟨m, found, named, Model.RefersTo.relatesBy refers⟩

/-- A model declares what an edge stood for before the model was replaced. -/
theorem Coherent.declares_replaceModel (coherent : s.Coherent) (distinct : s.modelNames.Nodup)
    (member : m ∈ s.models) (keeps : m.KeepsReferences new) {e : Edge} (inside : e ∈ s.edges)
    (kept : e.source = m.name → new.RelatesBy e.sourceField) :
    ∃ k ∈ (s.replaceModel m.name new).models,
      k.Declares { (e.renamed m.name new.name).toRelation with target := e.target } := by
  obtain ⟨k, found, named, refers⟩ := coherent e inside
  by_cases leaves : e.source = m.name
  · obtain rfl : k = m :=
      List.inj_on_of_nodup_map distinct found member (named.trans leaves)
    refine ⟨new, mem_models_replaceModel_iff.2 (.inr ⟨List.mem_map_of_mem member, rfl⟩), ?_, ?_⟩
    · simp [Edge.renamed, leaves]
    · exact keeps _ _ refers (kept leaves)
  · refine ⟨k, mem_models_replaceModel_iff.2 (.inl ⟨found, named ▸ leaves⟩), ?_, refers⟩
    simp [Edge.renamed, leaves, named]

/-- **Edges and fields after an edit** to a model of a coherent schema.  Every edge is
one from before that follows the name, and leaves a model from a relation field of it.
Under a steady edit that field names the target from before, and the schema is
coherent if no edge points at a model that is renamed. -/
theorem edges_after_edit {edit : Model.Edit} (coherent : s.Coherent)
    (distinct : s.modelNames.Nodup) (member : m ∈ s.models) (edited : edit.apply m = .ok new) :
    let after := s.replaceModel m.name new
    (∀ e' ∈ after.edges, ∃ e ∈ s.edges, e' = e.renamed m.name new.name ∧
        after.HasAnchor e'.source e'.sourceField ∧
          (edit.IsSteady m new →
            ∃ k ∈ after.models, k.Declares { e'.toRelation with target := e.target })) ∧
      (edit.IsSteady m new → (new.name = m.name ∨ ∀ e ∈ s.edges, e.target ≠ m.name) →
        after.Coherent) := by
  have declared (steady : edit.IsSteady m new) {e : Edge} (inside : e ∈ s.edges) :=
    coherent.declares_replaceModel distinct member
      (Model.Edit.keepsReferences_of_isSteady edited steady) inside
  refine ⟨fun e' inside' => ?_, fun steady untouched e' inside' => ?_⟩
  · obtain ⟨e, inside, kept, rfl⟩ := mem_edges_replaceModel_iff.1 inside'
    exact ⟨e, inside, rfl, anchored_replaceModel coherent.anchored m.name new _ inside',
      fun steady => declared steady inside kept⟩
  · obtain ⟨e, inside, kept, rfl⟩ := mem_edges_replaceModel_iff.1 inside'
    have target : (e.renamed m.name new.name).target = e.target := by
      rcases untouched with same | never
      · rw [Edge.renamed, same, ite_eq_right_iff]
        exact Eq.symm
      · exact if_neg (never e inside)
    have unmoved := declared steady inside kept
    rwa [← target] at unmoved

/-- Renaming the model that an edge leaves. -/
theorem edges_after_renaming_source :
    let s := ofText "model A \x7b\n  b B\n\x7d\nmodel B \x7b\n\x7d" false
    let m : Model := { name := "A", fields := [.derived "b" "B" []] }
    (s.Coherent ∧ s.modelNames.Nodup ∧ m ∈ s.models) ∧
      (s.replaceModel "A" (m.rename "C")).Coherent := by
  intro s m
  have start : s.Coherent ∧ s.modelNames.Nodup ∧ m ∈ s.models := by decide +kernel
  have never : ∀ e ∈ s.edges, e.target ≠ m.name := by decide +kernel
  obtain ⟨coherent, distinct, member⟩ := start
  have renamed : Model.Edit.apply m (.rename "C") = .ok (m.rename "C") := rfl
  have after := edges_after_edit coherent distinct member renamed
  exact ⟨⟨coherent, distinct, member⟩, after.2 trivial (.inr never)⟩

/-- Renaming the model that an edge points at, to a name not in use: the edge points
at the new name, its field still at the old one. -/
theorem rename_of_target_not_coherent :
    let s := ofText "model A \x7b\n  b B\n\x7d\nmodel B \x7b\n\x7d" false
    let m : Model := { name := "B" }
    (s.Coherent ∧ s.modelNames.Nodup ∧ m ∈ s.models ∧ "C" ∉ s.modelNames) ∧
      ¬ (s.replaceModel m.name (m.rename "C")).Coherent := by
  decide +kernel

end Schema

end SchemaDiagram
