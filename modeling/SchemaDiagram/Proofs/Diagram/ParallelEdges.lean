/-
# SchemaDiagram.Proofs.Diagram.ParallelEdges -- when no relation has two edges

Two edges are parallel if they have one link: the same ends and the same source field.
A text gives no parallel edges, since one edge is drawn for each key and a link
determines the key.  A connection is not drawn if its key is there.

An edge keeps its place when an end of it follows the new name of a model, and is not
compared with the others.  So it may come to lie beside an edge that has the new name at
that end already (`renaming_draws_parallel`).  Nothing else makes edges parallel: there
are none on the way of a run exactly if no replaced model merges two links of it, and
none is merged where the old or the new name is an end of no edge (`noParallels_run_iff`).
-/
import Mathlib.Data.List.Nodup
import Mathlib.Data.List.Pairwise
import SchemaDiagram.Proofs.Diagram.Change
import SchemaDiagram.Proofs.Schema.Drawing

namespace SchemaDiagram

set_option autoImplicit false

/-! ## Links -/

namespace Edge

/-- A link follows a name with its edge. -/
theorem link_renamed {old new : String} (e : Edge) :
    (e.renamed old new).link =
      (if e.source = old then new else e.source, if e.target = old then new else e.target,
        e.sourceField) :=
  rfl

/-- Links that follow a name stay apart if the new name is no end of theirs. -/
theorem link_eq_of_renamed {old new : String} {e e' : Edge}
    (apart : ¬ e.Touches new ∧ ¬ e'.Touches new)
    (same : (e.renamed old new).link = (e'.renamed old new).link) : e.link = e'.link := by
  have ends {a b : String} (other : a ≠ new) (other' : b ≠ new)
      (same : (if a = old then new else a) = if b = old then new else b) : a = b := by
    by_cases here : a = old <;> by_cases there : b = old <;> simp_all
  obtain ⟨⟨source, target⟩, source', target'⟩ := apart.imp not_or.1 not_or.1
  rw [link_renamed, link_renamed, Prod.mk.injEq, Prod.mk.injEq] at same
  exact Relation.link_eq_iff.2
    ⟨ends source source' same.1, ends target target' same.2.1, same.2.2⟩

end Edge

/-! ## Schemas without parallel edges -/

namespace Schema

def links (s : Schema) : List (String × String × String) :=
  s.edges.map (·.link)

/-- No two edges have one link. -/
def NoParallels (s : Schema) : Prop :=
  s.links.Nodup

instance (s : Schema) : Decidable s.NoParallels :=
  inferInstanceAs (Decidable s.links.Nodup)

variable {s : Schema}

theorem noParallels_ofText (text : String) (resolveBackFields : Bool) :
    (ofText text resolveBackFields).NoParallels := by
  rw [NoParallels, links, List.Nodup, List.pairwise_map]
  have keys : ((ofText text resolveBackFields).edges.map (·.key)).Nodup :=
    Edge.nodup_keys_ofRelations
  rw [List.Nodup, List.pairwise_map] at keys
  exact keys.imp fun different same => different (Relation.key_eq_of_link same)

theorem noParallels_removeModel (simple : s.NoParallels) (name : String) :
    (s.removeModel name).NoParallels :=
  simple.sublist (List.filter_sublist.map _)

theorem noParallels_connect {s' : Schema} {source target : String}
    {sourceHandle targetHandle : Option String} (simple : s.NoParallels)
    (connected : s.connect source sourceHandle target targetHandle = .ok s') :
    s'.NoParallels := by
  obtain ⟨-, ⟨-, rfl⟩ | ⟨fresh, rfl⟩⟩ := connect_eq_ok connected
  · exact simple
  · rw [NoParallels, links, List.map_append, List.map_singleton, ← List.concat_eq_append,
      List.nodup_concat]
    refine ⟨fun drawn => ?_, simple⟩
    obtain ⟨e, inside, same⟩ := List.mem_map.1 drawn
    have taken : s.edges.any (·.key == (connection source sourceHandle target targetHandle).key) =
        true :=
      List.any_eq_true.2 ⟨e, inside, beq_iff_eq.2 (Relation.key_eq_of_link same)⟩
    rw [fresh] at taken
    cases taken

theorem links_asWritten : s.asWritten.links = s.links := by
  simp [links, asWritten, Edge.asWritten, Relation.link, Function.comp_def]

/-- The edge stays when `new` takes the place of the model `name`. -/
def Keeps (name : String) (new : Model) (e : Edge) : Prop :=
  e.source = name → new.RelatesBy e.sourceField

/-- Two edges that stay have different links, but one link once they follow the name of
`new`. -/
def MergesLinks (s : Schema) (name : String) (new : Model) : Prop :=
  ∃ e ∈ s.edges, ∃ e' ∈ s.edges, Keeps name new e ∧ Keeps name new e' ∧ e.link ≠ e'.link ∧
    (e.renamed name new.name).link = (e'.renamed name new.name).link

/-- Not both edges stay, or they have different links then. -/
def StayApart (name : String) (new : Model) (e e' : Edge) : Prop :=
  Keeps name new e → Keeps name new e' →
    (e.renamed name new.name).link ≠ (e'.renamed name new.name).link

instance (name : String) (new : Model) : Std.Symm (StayApart name new) where
  symm _ _ apart keeps' keeps := (apart keeps keeps').symm

theorem noParallels_replaceModel_iff_pairwise (name : String) (new : Model) :
    (s.replaceModel name new).NoParallels ↔ s.edges.Pairwise (StayApart name new) := by
  rw [NoParallels, links, replaceModel, List.Nodup, List.pairwise_map, List.pairwise_filterMap]
  refine List.Pairwise.iff fun {e e'} => ?_
  simp only [followEdge_eq_some_iff]
  constructor
  · exact fun apart keeps keeps' => apart _ ⟨keeps, rfl⟩ _ ⟨keeps', rfl⟩
  · rintro apart _ ⟨keeps, rfl⟩ _ ⟨keeps', rfl⟩
    exact apart keeps keeps'

theorem noParallels_replaceModel_iff (simple : s.NoParallels) (name : String) (new : Model) :
    (s.replaceModel name new).NoParallels ↔ ¬ s.MergesLinks name new := by
  rw [noParallels_replaceModel_iff_pairwise]
  constructor
  · rintro apart ⟨e, inside, e', inside', keeps, keeps', different, merged⟩
    have others : e ≠ e' := fun same => different (same ▸ rfl)
    exact apart.forall inside inside' others keeps keeps' merged
  · intro unmerged
    rw [NoParallels, links, List.Nodup, List.pairwise_map] at simple
    refine simple.imp_of_mem fun inside inside' different keeps keeps' merged => ?_
    exact unmerged ⟨_, inside, _, inside', keeps, keeps', different, merged⟩

/-- Nothing is merged unless both names are ends of edges. -/
theorem not_mergesLinks {name : String} {new : Model}
    (apart : new.name = name ∨ (∀ e ∈ s.edges, ¬ e.Touches name) ∨
      ∀ e ∈ s.edges, ¬ e.Touches new.name) :
    ¬ s.MergesLinks name new := by
  rintro ⟨e, inside, e', inside', -, -, different, merged⟩
  rcases apart with same | old | fresh
  · rw [Edge.renamed_eq_self (.inl same), Edge.renamed_eq_self (.inl same)] at merged
    exact different merged
  · rw [Edge.renamed_eq_self (.inr (not_or.1 (old e inside))),
      Edge.renamed_eq_self (.inr (not_or.1 (old e' inside')))] at merged
    exact different merged
  · exact different (Edge.link_eq_of_renamed ⟨fresh e inside, fresh e' inside'⟩ merged)

end Schema

/-! ## Runs -/

namespace Diagram

variable {d : Diagram}

/-- The change replaces a model so that two links become one. -/
def MergesLinks (d : Diagram) : Change → Prop
  | .replaceModel name new => d.schema.MergesLinks name new
  | _ => False

/-- If the change gives a model a new name, no edge has the old one at its ends, or none
has the new one. -/
def NamesApart (d : Diagram) : Change → Prop
  | .replaceModel name new =>
      new.name = name ∨ (∀ e ∈ d.schema.edges, ¬ e.Touches name) ∨
        ∀ e ∈ d.schema.edges, ¬ e.Touches new.name
  | _ => True

theorem noParallels_after_iff (simple : d.schema.NoParallels) (c : Change) :
    (d.after c).schema.NoParallels ↔ ¬ d.MergesLinks c := by
  cases c with
  | removeModel name => exact iff_of_true (Schema.noParallels_removeModel simple name) id
  | replaceModel name new => exact Schema.noParallels_replaceModel_iff simple name new
  | addModel m => exact iff_of_true simple id
  | connect source sourceHandle target targetHandle =>
      refine iff_of_true ?_ id
      exact after_connect_induction simple fun _ connected =>
        Schema.noParallels_connect simple connected
  | reload grid =>
      refine iff_of_true ?_ id
      rw [after_reload, Schema.NoParallels, Schema.links_asWritten]
      exact simple

theorem not_mergesLinks_of_namesApart {c : Change} (apart : d.NamesApart c) :
    ¬ d.MergesLinks c := by
  cases c with
  | replaceModel name new => exact Schema.not_mergesLinks apart
  | _ => exact id

/-- **When no relation has two edges.**  On the way of a run from a text no edges are
parallel exactly if no replaced model merges two links, and none does so if no edge ends
at the old name or none at the new one. -/
theorem noParallels_run_iff (text : String) (settings : Settings) (changes : List Change) :
    let start := ofText text settings
    ((∀ before, before <+: changes → (start.run before).schema.NoParallels) ↔
        Along (fun d c => ¬ d.MergesLinks c) start changes) ∧
      (Along NamesApart start changes →
        ∀ before, before <+: changes → (start.run before).schema.NoParallels) := by
  intro start
  have exactly :
      (∀ before, before <+: changes → (start.run before).schema.NoParallels) ↔
        Along (fun d c => ¬ d.MergesLinks c) start changes :=
    forall_prefix_iff_along (P := fun e => e.schema.NoParallels)
      (Schema.noParallels_ofText _ _) fun _ c simple => noParallels_after_iff simple c
  exact ⟨exactly, fun apart =>
    exactly.2 (apart.imp fun _ _ => not_mergesLinks_of_namesApart)⟩

/-- `A` and `B` refer to `C` by fields of one name.  Once `A` is called `B` as well, two
edges leave the field `c` of `B` for `C`. -/
theorem renaming_draws_parallel :
    let text := "model A \x7b\n  c C\n\x7d\nmodel B \x7b\n  c C\n\x7d\nmodel C \x7b\n\x7d"
    let d := ofText text {}
    let m : Model := { name := "A", fields := [.derived "c" "C" []] }
    m ∈ d.schema.models ∧
      ¬ (d.run [.replaceModel m.name (m.rename "B")]).schema.NoParallels := by
  decide +kernel

end Diagram

end SchemaDiagram
