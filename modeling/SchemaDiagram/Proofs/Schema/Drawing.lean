/-
# SchemaDiagram.Proofs.Schema.Drawing -- which relations become edges

The link of a relation is what it joins: its source, its target and the field that it
starts from.  Edges are drawn one for each key, for the first relation that has it and
under the number of its place (`ofRelations_eq`).  A key is made from a link, so
relations of one link share their edge.

The other way round a dash in a name is not told from a dash between two names:
different links may have one key, and then only the first of them is drawn
(`dash_in_name_merges_links`).  So there is one edge for each link exactly if the keys
tell the links apart, as they do where no end has a dash in its name
(`ofRelations_eq_byLink_iff`).
-/
import Mathlib.Data.List.Induction
import Mathlib.Data.List.Nodup
import SchemaDiagram.Proofs.Text.Search
import SchemaDiagram.Schema.Edge

namespace SchemaDiagram

set_option autoImplicit false

/-! ## Links and keys -/

namespace Relation

/-- What a relation joins: its source and target, and the field that it starts from. -/
def link (r : Relation) : String × String × String :=
  (r.source, r.target, r.sourceField)

theorem link_eq_iff {r q : Relation} :
    r.link = q.link ↔
      r.source = q.source ∧ r.target = q.target ∧ r.sourceField = q.sourceField := by
  simp [link]

theorem key_eq_of_link {r q : Relation} (same : r.link = q.link) : r.key = q.key := by
  obtain ⟨source, target, field⟩ := link_eq_iff.1 same
  rw [key, key, source, target, field]

/-- Neither end has a dash in its name. -/
def EndsWithoutDash (r : Relation) : Prop :=
  '-' ∉ r.source.toList ∧ '-' ∉ r.target.toList

/-- Where no end has a dash, the first two dashes of a key part its names. -/
theorem link_eq_of_key {r q : Relation} (plain : r.EndsWithoutDash) (plain' : q.EndsWithoutDash)
    (same : r.key = q.key) : r.link = q.link := by
  have parts : r.source.toList ++ '-' :: (r.target.toList ++ '-' :: r.sourceField.toList) =
      q.source.toList ++ '-' :: (q.target.toList ++ '-' :: q.sourceField.toList) := by
    simpa [key] using congrArg String.toList same
  obtain ⟨source, behind⟩ := Text.eq_of_first_piece plain.1 plain'.1 parts
  obtain ⟨target, field⟩ := Text.eq_of_first_piece plain.2 plain'.2 behind
  exact link_eq_iff.2
    ⟨String.toList_inj.1 source, String.toList_inj.1 target, String.toList_inj.1 field⟩

/-! ## Relations that come first -/

section FirstPlaces

variable {α : Type} [DecidableEq α] {view : Relation → α} {relations : List Relation}

/-- The relations that no relation before them equals in what `view` shows, each with
its place. -/
def firstPlaces (view : Relation → α) (relations : List Relation) : List (Relation × Nat) :=
  relations.zipIdx.filter fun p => view p.1 ∉ (relations.take p.2).map view

/-- Whether a relation comes first is settled by those before it, so lists of relations
are taken apart from their ends. -/
theorem firstPlaces_concat (r : Relation) :
    firstPlaces view (relations ++ [r]) =
      firstPlaces view relations ++
        if view r ∈ relations.map view then [] else [(r, relations.length)] := by
  have before : ∀ p ∈ relations.zipIdx, (relations ++ [r]).take p.2 = relations.take p.2 := by
    intro p member
    have inside : p.2 < 0 + relations.length := List.snd_lt_add_of_mem_zipIdx member
    exact List.take_append_of_le_length (by omega)
  have earlier :
      relations.zipIdx.filter (fun p => view p.1 ∉ ((relations ++ [r]).take p.2).map view) =
        firstPlaces view relations :=
    List.filter_congr fun p member => by rw [before p member]
  rw [firstPlaces, List.zipIdx_append, List.filter_append, earlier]
  by_cases seen : view r ∈ relations.map view
  · simp [List.mem_map.1 seen]
  · simp [mt List.mem_map.2 seen]

/-- What is shown by some relation is shown by one that comes first. -/
theorem mem_views_firstPlaces_iff {v : α} :
    v ∈ (firstPlaces view relations).map (view ·.1) ↔ v ∈ relations.map view := by
  induction relations using List.reverseRecOn with
  | nil => rfl
  | append_singleton relations r ih =>
      rw [firstPlaces_concat, List.map_append, List.map_append, List.mem_append,
        List.mem_append, ih]
      by_cases seen : view r ∈ relations.map view
      · have again : v ∈ [r].map view → v ∈ relations.map view := by
          simp only [List.map_singleton, List.mem_singleton]
          rintro rfl
          exact seen
        rw [if_pos seen, or_iff_left_of_imp again]
        simp
      · rw [if_neg seen]
        rfl

theorem nodup_views_firstPlaces : ((firstPlaces view relations).map (view ·.1)).Nodup := by
  induction relations using List.reverseRecOn with
  | nil => exact List.nodup_nil
  | append_singleton relations r ih =>
      rw [firstPlaces_concat, List.map_append]
      split
      · rwa [List.map_nil, List.append_nil]
      · rename_i fresh
        rw [List.map_singleton, ← List.concat_eq_append, List.nodup_concat,
          mem_views_firstPlaces_iff]
        exact ⟨fresh, ih⟩

theorem nodup_places_firstPlaces : ((firstPlaces view relations).map (·.2)).Nodup := by
  have places : ((firstPlaces view relations).map (·.2)).Sublist (relations.zipIdx.map (·.2)) :=
    List.filter_sublist.map _
  rw [List.zipIdx_map_snd] at places
  exact places.nodup List.nodup_range'

/-- The relation that comes first with a view is the one that is found by it. -/
theorem exists_place_iff {r : Relation} :
    (∃ i, (r, i) ∈ firstPlaces view relations) ↔
      relations.find? (view · == view r) = some r := by
  induction relations using List.reverseRecOn with
  | nil => simp [firstPlaces]
  | append_singleton relations q ih =>
      rw [firstPlaces_concat, List.find?_append]
      by_cases seen : view q ∈ relations.map view
      · -- The last relation does not come first, nor is it found by its view.
        rw [if_pos seen, List.append_nil, ih]
        cases found : relations.find? (view · == view r) with
        | some p => rw [Option.some_or]
        | none =>
            have other : view q ≠ view r := by
              intro same
              obtain ⟨p, inside, shown⟩ := List.mem_map.1 seen
              exact List.find?_eq_none.1 found p inside (beq_iff_eq.2 (shown.trans same))
            simp [other]
      · have either : (∃ i, (r, i) ∈ firstPlaces view relations ++ [(q, relations.length)]) ↔
            (∃ i, (r, i) ∈ firstPlaces view relations) ∨ q = r := by
          simp [exists_or, eq_comm]
        rw [if_neg seen, either, ih]
        by_cases same : view q = view r
        · have missing : relations.find? (view · == view r) = none :=
            List.find?_eq_none.2 fun p inside shown =>
              seen (List.mem_map.2 ⟨p, inside, (beq_iff_eq.1 shown).trans same.symm⟩)
          simp [missing, same]
        · have other : q ≠ r := fun equal => same (congrArg view equal)
          simp [same, other]

/-- Views that tell the same relations apart have the same relations come first. -/
theorem firstPlaces_congr {β : Type} [DecidableEq β] {view' : Relation → β}
    (same : ∀ r ∈ relations, ∀ q ∈ relations, view q = view r ↔ view' q = view' r) :
    firstPlaces view relations = firstPlaces view' relations := by
  refine List.filter_congr fun p member => ?_
  have inside : p.1 ∈ relations := List.fst_mem_of_mem_zipIdx member
  have seen : view p.1 ∈ (relations.take p.2).map view ↔
      view' p.1 ∈ (relations.take p.2).map view' := by
    rw [List.mem_map, List.mem_map]
    exact exists_congr fun q => and_congr_right fun before =>
      same p.1 inside q (List.mem_of_mem_take before)
  exact decide_eq_decide.2 (not_congr seen)

end FirstPlaces

/-- Relations of one key have one link. -/
def KeysTellLinks (relations : List Relation) : Prop :=
  ∀ r ∈ relations, ∀ q ∈ relations, r.key = q.key → r.link = q.link

theorem keysTellLinks_of_endsWithoutDash {relations : List Relation}
    (plain : ∀ r ∈ relations, r.EndsWithoutDash) : KeysTellLinks relations :=
  fun r inside q inside' => link_eq_of_key (plain r inside) (plain q inside')

end Relation

/-! ## Edges -/

namespace Edge

/-- Of the keys that are drawn it only counts which they are. -/
theorem ofRelationsFrom_congr {relations : List Relation} :
    ∀ {drawn drawn' : List String} {index : Nat}, (∀ key, key ∈ drawn ↔ key ∈ drawn') →
      ofRelationsFrom drawn index relations = ofRelationsFrom drawn' index relations := by
  induction relations with
  | nil => exact fun _ => rfl
  | cons r rest ih =>
      intro drawn drawn' index same
      have known : drawn.contains r.key = drawn'.contains r.key := by
        rw [Bool.eq_iff_iff, List.contains_iff_mem, List.contains_iff_mem, same]
      have further : ∀ key, key ∈ r.key :: drawn ↔ key ∈ r.key :: drawn' := by
        simp [same]
      rw [ofRelationsFrom, ofRelationsFrom, known, ih same, ih further]

theorem ofRelationsFrom_append {first second : List Relation} :
    ∀ {drawn : List String} {index : Nat},
      ofRelationsFrom drawn index (first ++ second) =
        ofRelationsFrom drawn index first ++
          ofRelationsFrom (first.map (·.key) ++ drawn) (index + first.length) second := by
  induction first with
  | nil => exact rfl
  | cons r rest ih =>
      intro drawn index
      have number : index + 1 + rest.length = index + (r :: rest).length := by
        rw [List.length_cons]
        omega
      rw [List.cons_append, ofRelationsFrom, ofRelationsFrom]
      split
      · rename_i alreadyDrawn
        have known : r.key ∈ drawn := List.contains_iff_mem.1 alreadyDrawn
        rw [ih, number]
        refine congrArg _ (ofRelationsFrom_congr fun key => ?_)
        simp only [List.map_cons, List.cons_append, List.mem_cons, List.mem_append]
        grind
      · rw [ih, number, List.cons_append]
        refine congrArg (_ :: _ ++ ·) (ofRelationsFrom_congr fun key => ?_)
        simp only [List.map_cons, List.cons_append, List.mem_cons, List.mem_append]
        grind

variable {relations : List Relation}

theorem ofRelations_concat (r : Relation) :
    ofRelations (relations ++ [r]) =
      ofRelations relations ++
        if r.key ∈ relations.map (·.key) then [] else [r.edge relations.length] := by
  rw [ofRelations, ofRelationsFrom_append, List.append_nil, Nat.zero_add, ofRelations]
  simp only [ofRelationsFrom, List.contains_iff_mem]

/-- One edge is drawn for each key, for the first relation that has it. -/
theorem ofRelations_eq (relations : List Relation) :
    ofRelations relations =
      (Relation.firstPlaces Relation.key relations).map fun p => p.1.edge p.2 := by
  induction relations using List.reverseRecOn with
  | nil => rfl
  | append_singleton relations r ih =>
      rw [ofRelations_concat, Relation.firstPlaces_concat, List.map_append, ih]
      split
      · rfl
      · rfl

theorem mem_keys_ofRelations_iff {key : String} :
    key ∈ (ofRelations relations).map (·.key) ↔ key ∈ relations.map (·.key) := by
  rw [ofRelations_eq, List.map_map]
  exact Relation.mem_views_firstPlaces_iff

theorem nodup_keys_ofRelations : ((ofRelations relations).map (·.key)).Nodup := by
  rw [ofRelations_eq, List.map_map]
  exact Relation.nodup_views_firstPlaces

/-- The edges that are drawn are told by their keys. -/
theorem eq_of_key {e e' : Edge} (drawn : e ∈ ofRelations relations)
    (drawn' : e' ∈ ofRelations relations) (same : e.key = e'.key) : e = e' :=
  List.inj_on_of_nodup_map nodup_keys_ofRelations drawn drawn' same

/-- One edge for each link, for the first relation that has it. -/
def byLink (relations : List Relation) : List Edge :=
  (Relation.firstPlaces Relation.link relations).map fun p => p.1.edge p.2

theorem exists_byLink {r : Relation} (inside : r ∈ relations) :
    ∃ e ∈ byLink relations, e.link = r.link := by
  have shown : r.link ∈ (Relation.firstPlaces Relation.link relations).map (·.1.link) :=
    Relation.mem_views_firstPlaces_iff.2 (List.mem_map_of_mem inside)
  obtain ⟨p, first, same⟩ := List.mem_map.1 shown
  exact ⟨p.1.edge p.2, List.mem_map_of_mem first, same⟩

theorem ofRelations_eq_byLink (told : Relation.KeysTellLinks relations) :
    ofRelations relations = byLink relations := by
  have first : Relation.firstPlaces Relation.key relations =
      Relation.firstPlaces Relation.link relations :=
    Relation.firstPlaces_congr fun r inside q inside' =>
      ⟨told q inside' r inside, Relation.key_eq_of_link⟩
  rw [ofRelations_eq, byLink, first]

theorem existsUnique_edge {r : Relation} (told : Relation.KeysTellLinks relations)
    (inside : r ∈ relations) : ∃! e, e ∈ ofRelations relations ∧ e.link = r.link := by
  obtain ⟨e, member, link⟩ := exists_byLink inside
  rw [← ofRelations_eq_byLink told] at member
  refine ⟨e, ⟨member, link⟩, fun e' ⟨member', link'⟩ => ?_⟩
  exact eq_of_key member' member (Relation.key_eq_of_link (link'.trans link.symm))

/-- One edge alone is drawn for a key, so two links of one key do not both have one. -/
theorem keysTellLinks_of_drawn
    (drawn : ∀ r ∈ relations, ∃ e ∈ ofRelations relations, e.link = r.link) :
    Relation.KeysTellLinks relations := by
  intro r inside q inside' same
  obtain ⟨e, member, link⟩ := drawn r inside
  obtain ⟨e', member', link'⟩ := drawn q inside'
  have keys : e.key = e'.key :=
    calc e.key = r.key := Relation.key_eq_of_link link
      _ = q.key := same
      _ = e'.key := (Relation.key_eq_of_link link').symm
  rw [← link, ← link', eq_of_key member member' keys]

/-- **When there is one edge for each link**, drawn for the first relation that has it:
exactly if the keys tell the links apart, and so if no end has a dash in its name. -/
theorem ofRelations_eq_byLink_iff (relations : List Relation) :
    (ofRelations relations = byLink relations ↔ Relation.KeysTellLinks relations) ∧
      ((∀ r ∈ relations, ∃! e, e ∈ ofRelations relations ∧ e.link = r.link) ↔
        Relation.KeysTellLinks relations) ∧
      ((∀ r ∈ relations, r.EndsWithoutDash) → Relation.KeysTellLinks relations) := by
  refine ⟨⟨fun same => ?_, ofRelations_eq_byLink⟩, ⟨fun once => ?_, fun told r inside => ?_⟩,
    Relation.keysTellLinks_of_endsWithoutDash⟩
  · refine keysTellLinks_of_drawn fun r inside => ?_
    rw [same]
    exact exists_byLink inside
  · exact keysTellLinks_of_drawn fun r inside => (once r inside).exists
  · exact existsUnique_edge told inside

/-- A relation from `A-B` to `C` and one from `A` to `B-C` have one key.  The second is
not drawn. -/
theorem dash_in_name_merges_links :
    let r : Relation :=
      { source := "A-B", target := "C", sourceField := "d", cardinality := .oneToOne }
    let q : Relation :=
      { source := "A", target := "B-C", sourceField := "d", cardinality := .oneToOne }
    r.link ≠ q.link ∧ ofRelations [r, q] = [r.edge 0] ∧ byLink [r, q] = [r.edge 0, q.edge 1] := by
  decide +kernel

end Edge

end SchemaDiagram
