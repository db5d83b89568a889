/-
# SchemaDiagram.Proofs.Diagram.Removal -- what removing a model leaves

To remove a name is to take away the models of that name and the edges that touch it.
All else stays in its order, and the name is `Fresh` afterwards
(`losesOnly_removeModel`).  So removals may be made in any order, and a name that is
fresh already is removed without a trace (`removeModel_of_fresh`).

A model that takes the place of another draws the edges of that one to its own name.
So if its name is removed then, both names are gone, as if they had been removed from
the schema before (`removeModel_replaceModel`).  For a fresh name that means: renaming a
model first and removing it then is the same as removing it at once (`removal_laws`).
Which edges the renaming drops does not matter, as they touch the old name.
-/
import SchemaDiagram.Proofs.Diagram.Change

namespace SchemaDiagram

set_option autoImplicit false

/-! ## What is lost -/

/-- `part` keeps the order of `whole`, and everything in it that has `P`. -/
structure KeepsAll {α : Type} (P : α → Prop) (whole part : List α) : Prop where
  inOrder : part.Sublist whole
  all : ∀ others : List α, others.Sublist whole → (∀ x ∈ others, P x) → others.Sublist part

theorem keepsAll_filter {α : Type} {P : α → Prop} {p : α → Bool} (same : ∀ x, p x = true ↔ P x)
    (whole : List α) : KeepsAll P whole (whole.filter p) where
  inOrder := List.filter_sublist
  all others within each := by
    have kept : others.filter p = others :=
      List.filter_eq_self.2 fun x inside => (same x).2 (each x inside)
    rw [← kept]
    exact within.filter p

/-- Where what stays of `f` under `p` is unchanged and just what has `q`, the list is
filtered by `q`. -/
theorem filter_filterMap_eq_filter {α : Type} {f : α → Option α} {p q : α → Bool}
    (stays : ∀ x y, (f x = some y ∧ p y = true) ↔ x = y ∧ q x = true) (l : List α) :
    (l.filterMap f).filter p = l.filter q := by
  have each : (fun x => (f x).filter p) = Option.guard q := by
    funext x
    ext y
    rw [Option.filter_eq_some_iff, stays, Option.guard_eq_some_iff]
  rw [List.filter_filterMap, each, List.filterMap_eq_filter]

namespace Schema

/-- No model has that name, and no edge touches it. -/
def Fresh (s : Schema) (name : String) : Prop :=
  name ∉ s.modelNames ∧ ∀ e ∈ s.edges, ¬ e.Touches name

instance (s : Schema) (name : String) : Decidable (s.Fresh name) :=
  inferInstanceAs (Decidable (name ∉ s.modelNames ∧ ∀ e ∈ s.edges, ¬ e.Touches name))

/-- `rest` has nothing of that name, and everything else of `s`. -/
structure LosesOnly (s : Schema) (name : String) (rest : Schema) : Prop where
  fresh : rest.Fresh name
  models : KeepsAll (fun m => m.name ≠ name) s.models rest.models
  edges : KeepsAll (fun e => ¬ e.Touches name) s.edges rest.edges
  enums : rest.enums = s.enums

variable {s : Schema}

theorem staysEdge_iff {name : String} {e : Edge} :
    (e.source != name && e.target != name) = true ↔ ¬ e.Touches name := by
  simp [Edge.Touches]

theorem fresh_removeModel (s : Schema) (name : String) : (s.removeModel name).Fresh name := by
  constructor
  · intro named
    obtain ⟨m, kept, same⟩ := List.mem_map.1 named
    exact bne_iff_ne.1 (List.mem_filter.1 kept).2 same
  · exact fun e kept => staysEdge_iff.1 (List.mem_filter.1 kept).2

theorem losesOnly_removeModel (s : Schema) (name : String) :
    s.LosesOnly name (s.removeModel name) where
  fresh := fresh_removeModel s name
  models := keepsAll_filter (fun _ => bne_iff_ne) s.models
  edges := keepsAll_filter (fun _ => staysEdge_iff) s.edges
  enums := rfl

/-! ## Removals one after the other -/

/-- Nothing has a fresh name, so there is nothing to remove. -/
theorem removeModel_of_fresh {name : String} (fresh : s.Fresh name) : s.removeModel name = s := by
  have models : s.models.filter (·.name != name) = s.models :=
    List.filter_eq_self.2 fun m inside =>
      bne_iff_ne.2 fun named => fresh.1 (named ▸ List.mem_map_of_mem inside)
  have edges : s.edges.filter (fun e => e.source != name && e.target != name) = s.edges :=
    List.filter_eq_self.2 fun e inside => staysEdge_iff.2 (fresh.2 e inside)
  rw [removeModel, models, edges]

theorem removeModel_comm (s : Schema) (a b : String) :
    (s.removeModel a).removeModel b = (s.removeModel b).removeModel a := by
  rw [removeModel, removeModel, removeModel, removeModel, mk.injEq]
  exact ⟨List.filter_comm _ _ _, List.filter_comm _ _ _, rfl⟩

theorem removeModel_removeModel (s : Schema) (name : String) :
    (s.removeModel name).removeModel name = s.removeModel name :=
  removeModel_of_fresh (fresh_removeModel s name)

/-! ## Removals after a replacement -/

variable {name : String} {new : Model}

/-- Of the models in their new places, those that do not have the new name have had
neither name, and are still in theirs. -/
theorem placeModel_stays_iff {m m' : Model} :
    (some (if m.name = name then new else m) = some m' ∧ (m'.name != new.name) = true) ↔
      m = m' ∧ (m.name != new.name && m.name != name) = true := by
  rw [Option.some.injEq, Bool.and_eq_true, bne_iff_ne, bne_iff_ne, bne_iff_ne]
  constructor
  · rintro ⟨rfl, other⟩
    split at other
    · exact absurd rfl other
    · rename_i away
      rw [if_neg away]
      exact ⟨rfl, other, away⟩
  · rintro ⟨rfl, other, away⟩
    exact ⟨if_neg away, other⟩

/-- Of the edges that follow a new model, those that do not touch it have touched
neither name, and have not changed. -/
theorem followEdge_stays_iff {e e' : Edge} :
    (followEdge name new e = some e' ∧ (e'.source != new.name && e'.target != new.name) = true) ↔
      e = e' ∧ (e.source != new.name && e.target != new.name &&
        (e.source != name && e.target != name)) = true := by
  rw [followEdge_eq_some_iff, staysEdge_iff, Bool.and_eq_true (e.source != new.name && _),
    staysEdge_iff, staysEdge_iff]
  constructor
  · rintro ⟨⟨-, rfl⟩, untouched⟩
    have source : e.source ≠ name := fun leaves => untouched (.inl (if_pos leaves))
    have target : e.target ≠ name := fun ends => untouched (.inr (if_pos ends))
    have unmoved : e.renamed name new.name = e := Edge.renamed_eq_self (.inr ⟨source, target⟩)
    rw [unmoved] at untouched
    exact ⟨unmoved.symm, untouched, not_or.2 ⟨source, target⟩⟩
  · rintro ⟨rfl, untouched, away⟩
    obtain ⟨source, target⟩ := not_or.1 away
    exact ⟨⟨fun leaves => absurd leaves source, Edge.renamed_eq_self (.inr ⟨source, target⟩)⟩,
      untouched⟩

/-- To replace a model and remove the new name is to remove both names. -/
theorem removeModel_replaceModel (s : Schema) (name : String) (new : Model) :
    (s.replaceModel name new).removeModel new.name = (s.removeModel name).removeModel new.name := by
  rw [removeModel, removeModel, removeModel, mk.injEq, List.filter_filter, List.filter_filter]
  refine ⟨?_, ?_, rfl⟩
  · rw [replaceModel, ← List.filterMap_eq_map]
    exact filter_filterMap_eq_filter (fun _ _ => placeModel_stays_iff) s.models
  · exact filter_filterMap_eq_filter (fun _ _ => followEdge_stays_iff) s.edges

end Schema

/-! ## The laws -/

namespace Diagram

/-- **Laws of removal.**  Removals may be made in any order and more than once.  One takes
what has the name, and leaves all else.  To rename a model to a fresh name before it is
removed makes no difference. -/
theorem removal_laws (d : Diagram) (a b : String) :
    (d.removeModel a).removeModel b = (d.removeModel b).removeModel a ∧
      (d.removeModel a).removeModel a = d.removeModel a ∧
      d.schema.LosesOnly a (d.removeModel a).schema ∧
      ∀ m ∈ d.schema.models, ∀ name, d.schema.Fresh name →
        (d.replaceModel m.name (m.rename name)).removeModel name = d.removeModel m.name := by
  refine ⟨?_, ?_, Schema.losesOnly_removeModel d.schema a, fun m _ name fresh => ?_⟩
  · rw [removeModel, removeModel, removeModel, removeModel, Schema.removeModel_comm]
  · rw [removeModel, removeModel, Schema.removeModel_removeModel]
  · have both : (d.schema.replaceModel m.name (m.rename name)).removeModel name =
        (d.schema.removeModel m.name).removeModel name :=
      Schema.removeModel_replaceModel d.schema m.name (m.rename name)
    rw [replaceModel, removeModel, removeModel, both, Schema.removeModel_comm,
      Schema.removeModel_of_fresh fresh]

/-- Two models share a name.  One edge of it ends at the model itself, and one at an enum;
a third starts at no field at all, and the renaming drops it. -/
theorem removal_laws_of_shared_name :
    let text := "model A \x7b\n  a A\n  e E\n\x7d\nmodel B \x7b\n  a A\n\x7d\n" ++
      "model A \x7b\n\x7d\nenum E \x7b\n\x7d"
    let d := (ofText text {}).run [.connect "A" none "B" none]
    let m : Model := { name := "A", fields := [.derived "a" "A" [], .derived "e" "E" []] }
    (m ∈ d.schema.models ∧ d.schema.Fresh "N") ∧
      (d.replaceModel "A" (m.rename "N")).schema.edges.map (·.id) =
        ["A-A-a-0", "A-E-e-1", "B-A-a-2"] ∧
      (d.replaceModel "A" (m.rename "N")).removeModel "N" = d.removeModel "A" := by
  intro text d m
  have member : m ∈ d.schema.models := by decide +kernel
  have fresh : d.schema.Fresh "N" := by decide +kernel
  have edges : (d.replaceModel "A" (m.rename "N")).schema.edges.map (·.id) =
      ["A-A-a-0", "A-E-e-1", "B-A-a-2"] := by decide +kernel
  obtain ⟨-, -, -, renamed⟩ := removal_laws d "A" "B"
  exact ⟨⟨member, fresh⟩, edges, renamed m member "N" fresh⟩

end Diagram

end SchemaDiagram
