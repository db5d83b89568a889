/-
# SchemaDiagram.Proofs.Diagram.Connection -- what a connection draws

A handle tells a field: one that is missing or empty tells none, and any other the name
that is left when one ending is cut from it, if it has the ending (`HandleTells`).

A connection between two models does not fail, and made again it changes nothing.  It
is to add an edge exactly if none has its link.  But links are compared by their keys,
so a connection is not drawn either if another link has its key
(`dash_in_name_keeps_edge_out`); otherwise it does what it is to do
(`connect_addsMissing_iff`).

The handles of an edge tell the fields that it joins.  So a connection between them
finds the edge, and where no edge has its key, it draws the same relation again
(`connect_handles`).
-/
import SchemaDiagram.Proofs.Diagram.ParallelEdges

namespace SchemaDiagram

set_option autoImplicit false

/-! ## Handles -/

theorem cutEnd_eq_self {ending s : String} (bare : ∀ name, s ≠ name ++ ending) :
    cutEnd ending s = s := by
  rw [cutEnd, if_neg]
  intro ends
  obtain ⟨name, same⟩ := Text.endsWith_iff.1 ends
  refine bare (String.ofList name) (String.toList_inj.1 ?_)
  rw [String.toList_append, String.toList_ofList, same]

/-- The field that a handle tells, if it tells one. -/
inductive HandleTells (ending : String) : Option String → Option String → Prop
  | missing : HandleTells ending none none
  | empty : HandleTells ending (some "") none
  | ended (name : String) (someText : name ++ ending ≠ "") :
      HandleTells ending (some (name ++ ending)) (some name)
  | bare (name : String) (someText : name ≠ "") (bare : ∀ front, name ≠ front ++ ending) :
      HandleTells ending (some name) (some name)

theorem handleTells_iff {ending : String} {handle field : Option String} :
    HandleTells ending handle field ↔ fieldOfHandle ending handle = field := by
  constructor
  · intro tells
    cases tells with
    | missing => rfl
    | empty => rfl
    | ended name someText => rw [fieldOfHandle, if_neg someText, cutEnd_append]
    | bare name someText bare => rw [fieldOfHandle, if_neg someText, cutEnd_eq_self bare]
  · rintro rfl
    cases handle with
    | none => exact .missing
    | some handle =>
        by_cases empty : handle = ""
        · rw [empty]
          exact .empty
        · rw [fieldOfHandle, if_neg empty]
          by_cases ended : ∃ name, handle = name ++ ending
          · obtain ⟨name, rfl⟩ := ended
            rw [cutEnd_append]
            exact .ended name empty
          · have bare : ∀ name, handle ≠ name ++ ending := not_exists.1 ended
            rw [cutEnd_eq_self bare]
            exact .bare handle empty bare

/-- A connection between the handles of an edge is one-to-one, from its source field to
its target field, if that has a name. -/
theorem Schema.connection_handles (e : Edge) :
    connection e.source (some e.sourceHandle) e.target e.targetHandle =
      { e.asWritten.toRelation with cardinality := .oneToOne, args := {} } := by
  have sourceField : fieldOfHandle "-source" (some e.sourceHandle) = some e.sourceField :=
    fieldOfHandle_append (by decide) e.sourceField
  rw [connection, sourceField, Edge.fieldOfHandle_targetHandle]
  rfl

namespace Diagram

variable {d : Diagram} {source target : String} {sourceHandle targetHandle : Option String}

/-! ## One connection -/

theorem connect_of_key (known : source ∈ d.schema.modelNames ∧ target ∈ d.schema.modelNames)
    (taken : ∃ e ∈ d.schema.edges,
      e.key = (Schema.connection source sourceHandle target targetHandle).key) :
    d.connect source sourceHandle target targetHandle = .ok d := by
  rw [connect, Schema.connect_of_known known, if_pos taken]
  rfl

theorem connect_of_no_key
    (known : source ∈ d.schema.modelNames ∧ target ∈ d.schema.modelNames)
    (fresh : ¬ ∃ e ∈ d.schema.edges,
      e.key = (Schema.connection source sourceHandle target targetHandle).key) :
    let r := Schema.connection source sourceHandle target targetHandle
    d.connect source sourceHandle target targetHandle =
      .ok { d with
        schema := { d.schema with edges := d.schema.edges ++ [r.edge d.schema.edges.length] } } := by
  intro r
  rw [connect, Schema.connect_of_known known, if_neg fresh]
  rfl

/-- Made again, a connection finds its key. -/
theorem connect_again (known : source ∈ d.schema.modelNames ∧ target ∈ d.schema.modelNames)
    {d' : Diagram} (connected : d.connect source sourceHandle target targetHandle = .ok d') :
    d'.connect source sourceHandle target targetHandle = .ok d' := by
  by_cases taken : ∃ e ∈ d.schema.edges,
      e.key = (Schema.connection source sourceHandle target targetHandle).key
  · rw [connect_of_key known taken] at connected
    cases connected
    exact connect_of_key known taken
  · rw [connect_of_no_key known taken] at connected
    cases connected
    exact connect_of_key known ⟨_, List.mem_append_right _ (List.mem_singleton_self _), rfl⟩

/-- What drawing a relation is to do: nothing if an edge has its link, and else to add
an edge for it behind the others. -/
structure AddsMissing (d : Diagram) (r : Relation) (d' : Diagram) : Prop where
  unchanged_iff : d' = d ↔ ∃ e ∈ d.schema.edges, e.link = r.link
  added : (¬ ∃ e ∈ d.schema.edges, e.link = r.link) →
    ∃ n, d' = { d with schema := { d.schema with edges := d.schema.edges ++ [r.edge n] } }

theorem addsMissing_self_iff {r : Relation} :
    d.AddsMissing r d ↔ ∃ e ∈ d.schema.edges, e.link = r.link := by
  constructor
  · exact fun adds => adds.unchanged_iff.1 rfl
  · exact fun linked => ⟨iff_of_true rfl linked, fun missing => absurd linked missing⟩

theorem addsMissing_append {r : Relation} (missing : ¬ ∃ e ∈ d.schema.edges, e.link = r.link)
    (n : Nat) :
    d.AddsMissing r
      { d with schema := { d.schema with edges := d.schema.edges ++ [r.edge n] } } := by
  refine ⟨iff_of_false (fun same => ?_) missing, fun _ => ⟨n, rfl⟩⟩
  have edges : d.schema.edges ++ [r.edge n] = d.schema.edges := congrArg (·.schema.edges) same
  exact List.cons_ne_nil _ _ (List.append_right_eq_self.1 edges)

/-- **When a connection adds exactly the missing edge.**  Between two models it does not
fail, and made again it changes nothing.  It draws what its handles tell exactly if no
edge has its key, or one has its link, and so if no end has a dash in its name. -/
theorem connect_addsMissing_iff
    (known : source ∈ d.schema.modelNames ∧ target ∈ d.schema.modelNames)
    (sourceHandle targetHandle : Option String) :
    ∃ sourceField targetField d',
      HandleTells "-source" sourceHandle sourceField ∧
      HandleTells "-target" targetHandle targetField ∧
      d.connect source sourceHandle target targetHandle = .ok d' ∧
      d'.connect source sourceHandle target targetHandle = .ok d' ∧
      let r : Relation :=
        { source, target, sourceField := sourceField.getD "", targetField,
          cardinality := .oneToOne, args := {} }
      (d.AddsMissing r d' ↔
        ((∃ e ∈ d.schema.edges, e.key = r.key) → ∃ e ∈ d.schema.edges, e.link = r.link)) ∧
      (r.EndsWithoutDash → (∀ e ∈ d.schema.edges, e.EndsWithoutDash) → d.AddsMissing r d') := by
  let r := Schema.connection source sourceHandle target targetHandle
  have exactly : ∃ d', d.connect source sourceHandle target targetHandle = .ok d' ∧
      (d.AddsMissing r d' ↔
        ((∃ e ∈ d.schema.edges, e.key = r.key) → ∃ e ∈ d.schema.edges, e.link = r.link)) := by
    by_cases taken : ∃ e ∈ d.schema.edges, e.key = r.key
    · -- Nothing is drawn, which is right only if an edge with the key has the link too.
      refine ⟨d, connect_of_key known taken, ?_⟩
      rw [addsMissing_self_iff, forall_prop_of_true taken]
    · have missing : ¬ ∃ e ∈ d.schema.edges, e.link = r.link := fun ⟨e, inside, same⟩ =>
        taken ⟨e, inside, Relation.key_eq_of_link same⟩
      exact ⟨_, connect_of_no_key known taken,
        iff_of_true (addsMissing_append missing _) fun drawn => absurd drawn taken⟩
  obtain ⟨d', connected, adds⟩ := exactly
  refine ⟨_, _, d', handleTells_iff.2 rfl, handleTells_iff.2 rfl, connected,
    connect_again known connected, adds, fun plain plain' => adds.2 ?_⟩
  rintro ⟨e, inside, same⟩
  exact ⟨e, inside, Relation.link_eq_of_key (plain' e inside) plain same⟩

/-- A handle without its ending, one that has it twice, and a dash in a name. -/
theorem connect_addsMissing_of_odd_handles :
    let d := ofText "model A-B \x7b\n  c C\n\x7d\nmodel C \x7b\n\x7d" {}
    let r : Relation :=
      { source := "A-B", target := "C", sourceField := "d", targetField := some "e-target",
        cardinality := .oneToOne }
    ("A-B" ∈ d.schema.modelNames ∧ "C" ∈ d.schema.modelNames) ∧
      ∃ d', d.connect "A-B" (some "d") "C" (some "e-target-target") = .ok d' ∧
        d'.connect "A-B" (some "d") "C" (some "e-target-target") = .ok d' ∧
        d.AddsMissing r d' := by
  intro d r
  have known : "A-B" ∈ d.schema.modelNames ∧ "C" ∈ d.schema.modelNames := by decide +kernel
  obtain ⟨sourceField, targetField, d', tells, tells', connected, again, adds, -⟩ :=
    connect_addsMissing_iff known (some "d") (some "e-target-target")
  have field : some "d" = sourceField := handleTells_iff.1 tells
  have field' : some "e-target" = targetField := handleTells_iff.1 tells'
  subst field field'
  have fresh : ¬ ∃ e ∈ d.schema.edges, e.key = r.key := by decide +kernel
  exact ⟨known, d', connected, again, adds.2 fun drawn => absurd drawn fresh⟩

/-- The edge from `A-B` to `C` has the key of a connection from `A` to `B-C`, which is
not drawn. -/
theorem dash_in_name_keeps_edge_out :
    let d := ofText ("model A-B \x7b\n  d C\n\x7d\nmodel A \x7b\n\x7d\n" ++
      "model B-C \x7b\n\x7d\nmodel C \x7b\n\x7d") {}
    ("A" ∈ d.schema.modelNames ∧ "B-C" ∈ d.schema.modelNames) ∧
      d.connect "A" (some "d-source") "B-C" none = .ok d ∧
      ("A", "B-C", "d") ∉ d.schema.links := by
  decide +kernel

/-! ## Connections between handles -/

/-- What is told by the handles of an edge has its link. -/
theorem link_connection_handles (e : Edge) :
    (Schema.connection e.source (some e.sourceHandle) e.target e.targetHandle).link = e.link := by
  rw [Schema.connection_handles]
  rfl

theorem connect_eq_ok {d' : Diagram}
    (connected : d.connect source sourceHandle target targetHandle = .ok d') :
    ∃ s', d.schema.connect source sourceHandle target targetHandle = .ok s' ∧
      d' = { d with schema := s' } := by
  rw [connect] at connected
  cases found : d.schema.connect source sourceHandle target targetHandle with
  | error e =>
      rw [found] at connected
      cases connected
  | ok s' =>
      rw [found] at connected
      cases connected
      exact ⟨s', rfl, rfl⟩

/-- An edge that a connection adds is drawn for what its handles tell. -/
theorem toRelation_eq_of_connect {d' : Diagram} {e : Edge}
    (connected : d.connect source sourceHandle target targetHandle = .ok d')
    (added : d'.schema.edges = d.schema.edges ++ [e]) :
    e.toRelation = Schema.connection source sourceHandle target targetHandle := by
  obtain ⟨s', drawn, rfl⟩ := connect_eq_ok connected
  obtain ⟨-, ⟨-, rfl⟩ | ⟨-, rfl⟩⟩ := Schema.connect_eq_ok drawn
  · exact absurd (List.self_eq_append_right.1 added) (List.cons_ne_nil _ _)
  · have last := List.singleton_inj.1 (List.append_cancel_left added)
    rw [← last]
    rfl

/-- **Handles tell what they were made from.**  A connection between the handles of an
edge changes nothing.  Where no edge has the key of an edge that a connection has drawn,
a connection between its handles draws it again, with the same relation unless its
target field has no name. -/
theorem connect_handles :
    (∀ d : Diagram, ∀ e ∈ d.schema.edges,
        e.source ∈ d.schema.modelNames → e.target ∈ d.schema.modelNames →
          d.connect e.source (some e.sourceHandle) e.target e.targetHandle = .ok d) ∧
      ∀ (d d' other : Diagram) (source target : String)
        (sourceHandle targetHandle : Option String) (e : Edge),
        d.connect source sourceHandle target targetHandle = .ok d' →
        d'.schema.edges = d.schema.edges ++ [e] →
        e.source ∈ other.schema.modelNames → e.target ∈ other.schema.modelNames →
        (∀ e' ∈ other.schema.edges, e'.key ≠ e.key) →
          ∃ e' : Edge,
            other.connect e.source (some e.sourceHandle) e.target e.targetHandle =
              .ok { other with
                schema := { other.schema with edges := other.schema.edges ++ [e'] } } ∧
            e'.sourceField = e.sourceField ∧
            (e.targetField ≠ some "" → e'.toRelation = e.toRelation) := by
  constructor
  · intro d e inside known known'
    have link := link_connection_handles e
    exact connect_of_key ⟨known, known'⟩ ⟨e, inside, (Relation.key_eq_of_link link).symm⟩
  · intro d d' other source target sourceHandle targetHandle e connected added known known' fresh
    have key := Relation.key_eq_of_link (link_connection_handles e)
    have missing : ¬ ∃ e' ∈ other.schema.edges,
        e'.key =
          (Schema.connection e.source (some e.sourceHandle) e.target e.targetHandle).key :=
      fun ⟨e', inside, same⟩ => fresh e' inside (same.trans key)
    refine ⟨_, connect_of_no_key ⟨known, known'⟩ missing, ?_, fun named => ?_⟩
    · exact (Relation.link_eq_iff.1 (link_connection_handles e)).2.2
    · have drawn := toRelation_eq_of_connect connected added
      have cardinality : e.cardinality = .oneToOne := congrArg Relation.cardinality drawn
      have args : e.args = {} := congrArg Relation.args drawn
      calc Schema.connection e.source (some e.sourceHandle) e.target e.targetHandle
          = { e.toRelation with cardinality := .oneToOne, args := {} } := by
            rw [Schema.connection_handles, Edge.asWritten_eq_self named]
        _ = e.toRelation := by rw [← cardinality, ← args]

/-- Fields that are called like endings, on the diagram itself and on one that has an edge
of another key. -/
theorem connect_handles_of_field_with_ending :
    let d : Diagram := { schema := { models := [{ name := "A" }, { name := "B" }] } }
    let r : Relation :=
      { source := "A", target := "B", sourceField := "a-source", targetField := some "-target",
        cardinality := .oneToOne }
    let d' : Diagram := { d with schema := { d.schema with edges := [r.edge 0] } }
    let q : Relation := { r with sourceField := "a" }
    let other : Diagram := { d with schema := { d.schema with edges := [q.edge 0] } }
    d.connect "A" (some "a-source-source") "B" (some "-target-target") = .ok d' ∧
      d'.connect "A" (some "a-source-source") "B" (some "-target-target") = .ok d' ∧
      ∃ e' : Edge,
        other.connect "A" (some "a-source-source") "B" (some "-target-target") =
          .ok { other with schema := { other.schema with edges := [q.edge 0] ++ [e'] } } ∧
        e'.toRelation = r := by
  intro d r d' q other
  have connected : d.connect "A" (some "a-source-source") "B" (some "-target-target") =
      .ok d' := by
    decide +kernel
  have again := connect_handles.1 d' (r.edge 0) (List.mem_singleton_self _) (by decide +kernel)
    (by decide +kernel)
  obtain ⟨e', drawn, -, same⟩ := connect_handles.2 d d' other "A" "B" _ _ (r.edge 0) connected
    rfl (by decide +kernel) (by decide +kernel) (by decide +kernel)
  exact ⟨connected, again, e', drawn, same (by decide +kernel)⟩

end Diagram

end SchemaDiagram
