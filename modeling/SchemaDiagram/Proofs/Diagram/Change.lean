/-
# SchemaDiagram.Proofs.Diagram.Change -- runs of changes

A diagram is changed step by step.  A change that fails leaves it as it was; only a
connection to a model that is not there fails, as what was written can always be
read again (`change_reload`).  What every change keeps, a run keeps
(`run_induction`).

The first thing that is kept: if each edge joins two models of the diagram, it does
so after every run (`edgesJoinModels_run`).
-/
import SchemaDiagram.Proofs.Diagram.Replacement
import SchemaDiagram.Proofs.Diagram.Written

namespace SchemaDiagram

set_option autoImplicit false

inductive Change where
  | removeModel (name : String)
  | replaceModel (name : String) (new : Model)
  /-- Without a model, a new one is added. -/
  | addModel (m : Option Model)
  | connect (source : String) (sourceHandle : Option String) (target : String)
      (targetHandle : Option String)
  /-- Write the diagram as a document, and read that for a grid. -/
  | reload (grid : Grid)

inductive ChangeError where
  | unknownModel (e : UnknownModel)
  | document (e : DocumentError)

namespace Diagram

def change (d : Diagram) : Change → Except ChangeError Diagram
  | .removeModel name => .ok (d.removeModel name)
  | .replaceModel name new => .ok (d.replaceModel name new)
  | .addModel m => .ok (d.addModel (m.getD (.starter Model.starterName)))
  | .connect source sourceHandle target targetHandle =>
      (d.connect source sourceHandle target targetHandle).mapError .unknownModel
  | .reload grid => (Diagram.ofDocument d.toDocument grid).mapError .document

/-- The diagram after a change, which leaves it as it was if it fails. -/
def after (d : Diagram) (c : Change) : Diagram :=
  match d.change c with
  | .ok changed => changed
  | .error _ => d

def run (d : Diagram) (changes : List Change) : Diagram :=
  changes.foldl after d

/-! ## One change -/

/-- Reading again what was written does not fail. -/
theorem change_reload (d : Diagram) (grid : Grid) :
    d.change (.reload grid) = .ok { schema := d.schema.asWritten, grid } := by
  rw [change, ofDocument_toDocument]
  rfl

theorem after_reload (d : Diagram) (grid : Grid) :
    d.after (.reload grid) = { schema := d.schema.asWritten, grid } := by
  rw [after, change_reload]

end Diagram

/-- A connection between two models of the schema does not fail.  It adds one edge,
unless there is one of its key. -/
theorem Schema.connect_of_known {s : Schema} {source target : String}
    (known : source ∈ s.modelNames ∧ target ∈ s.modelNames)
    (sourceHandle targetHandle : Option String) :
    let r := connection source sourceHandle target targetHandle
    s.connect source sourceHandle target targetHandle =
      .ok (if ∃ e ∈ s.edges, e.key = r.key then s
        else { s with edges := s.edges ++ [r.edge s.edges.length] }) := by
  intro r
  have allKnown : [source, target].find? (fun name => !s.modelNames.contains name) = none := by
    simp [known]
  have drawn : s.edges.any (·.key == r.key) = true ↔ ∃ e ∈ s.edges, e.key = r.key := by
    simp
  rw [connect, allKnown]
  by_cases taken : ∃ e ∈ s.edges, e.key = r.key
  · rw [if_pos taken]
    exact if_pos (drawn.2 taken)
  · rw [if_neg taken]
    exact if_neg (mt drawn.1 taken)

/-- A connection joins two models of the schema.  It changes nothing if there is an
edge of its key, and adds one edge otherwise. -/
theorem Schema.connect_eq_ok {s s' : Schema} {source target : String}
    {sourceHandle targetHandle : Option String}
    (connected : s.connect source sourceHandle target targetHandle = .ok s') :
    let r := connection source sourceHandle target targetHandle
    (source ∈ s.modelNames ∧ target ∈ s.modelNames) ∧
      ((s.edges.any (·.key == r.key) = true ∧ s' = s) ∨
        (s.edges.any (·.key == r.key) = false ∧
          s' = { s with edges := s.edges ++ [r.edge s.edges.length] })) := by
  intro r
  rw [Schema.connect] at connected
  split at connected
  · cases connected
  · rename_i known
    have names : source ∈ s.modelNames ∧ target ∈ s.modelNames := by simpa using known
    dsimp only at connected
    split at connected
    · rename_i drawn
      cases connected
      exact ⟨names, .inl ⟨drawn, rfl⟩⟩
    · rename_i new
      cases connected
      exact ⟨names, .inr ⟨Bool.eq_false_iff.2 new, rfl⟩⟩

namespace Diagram

/-- What holds before a connection, and after it if it is drawn, holds after it
whether or not it fails. -/
theorem after_connect_induction {P : Schema → Prop} {d : Diagram} {source target : String}
    {sourceHandle targetHandle : Option String} (before : P d.schema)
    (drawn : ∀ s, d.schema.connect source sourceHandle target targetHandle = .ok s → P s) :
    P (d.after (.connect source sourceHandle target targetHandle)).schema := by
  rw [after, change, connect]
  cases connected : d.schema.connect source sourceHandle target targetHandle with
  | error e => exact before
  | ok s => exact drawn s connected

/-! ## Runs -/

/-- `Q` holds of each change of the run and the diagram that it is made to. -/
def Along (Q : Diagram → Change → Prop) : Diagram → List Change → Prop
  | _, [] => True
  | d, c :: rest => Q d c ∧ Along Q (d.after c) rest

theorem along_of_forall {Q : Diagram → Change → Prop} {d : Diagram} {changes : List Change}
    (each : ∀ c ∈ changes, ∀ e, Q e c) : Along Q d changes := by
  induction changes generalizing d with
  | nil => trivial
  | cons c rest ih =>
      rw [List.forall_mem_cons] at each
      exact ⟨each.1 d, ih each.2⟩

theorem Along.imp {Q Q' : Diagram → Change → Prop} {d : Diagram} {changes : List Change}
    (along : Along Q d changes) (each : ∀ e c, Q e c → Q' e c) : Along Q' d changes := by
  induction changes generalizing d with
  | nil => trivial
  | cons c rest ih => exact ⟨each d c along.1, ih along.2⟩

theorem run_induction_along {P : Diagram → Prop} {Q : Diagram → Change → Prop} {d : Diagram}
    {changes : List Change} (start : P d) (along : Along Q d changes)
    (kept : ∀ e c, P e → Q e c → P (e.after c)) : P (d.run changes) := by
  induction changes generalizing d with
  | nil => exact start
  | cons c rest ih => exact ih (kept d c start along.1) along.2

/-- What each of the changes keeps, the run keeps. -/
theorem run_induction {P : Diagram → Prop} {d : Diagram} {changes : List Change} (start : P d)
    (kept : ∀ c ∈ changes, ∀ e : Diagram, P e → P (e.after c)) : P (d.run changes) :=
  run_induction_along start (along_of_forall kept) fun _ _ before step => step before

/-- The diagrams on the way of a run that starts with the change `c`. -/
theorem forall_prefix_cons_iff {P : Diagram → Prop} {d : Diagram} {c : Change}
    {rest : List Change} :
    (∀ before, before <+: c :: rest → P (d.run before)) ↔
      P d ∧ ∀ before, before <+: rest → P ((d.after c).run before) := by
  constructor
  · exact fun all => ⟨all [] List.nil_prefix, fun before start =>
      all (c :: before) (List.cons_prefix_cons.2 ⟨rfl, start⟩)⟩
  · rintro ⟨now, later⟩ before start
    rcases List.prefix_cons_iff.1 start with rfl | ⟨tail, rfl, further⟩
    · exact now
    · exact later tail further

/-- If of the diagrams with `P` exactly the changes with `Q` give one with `P` again,
then `P` holds on the way of a run exactly if `Q` holds along it. -/
theorem forall_prefix_iff_along {P : Diagram → Prop} {Q : Diagram → Change → Prop} {d : Diagram}
    {changes : List Change} (start : P d) (step : ∀ e c, P e → (P (e.after c) ↔ Q e c)) :
    (∀ before, before <+: changes → P (d.run before)) ↔ Along Q d changes := by
  induction changes generalizing d with
  | nil =>
      refine iff_of_true (fun before empty => ?_) trivial
      rw [List.prefix_nil.1 empty]
      exact start
  | cons c rest ih =>
      rw [forall_prefix_cons_iff, and_iff_right start, Along, ← step d c start]
      constructor
      · intro later
        have next : P (d.after c) := later [] List.nil_prefix
        exact ⟨next, (ih next).1 later⟩
      · exact fun ⟨next, later⟩ => (ih next).2 later

end Diagram

/-! ## Edges join models -/

/-- Both ends of each edge are models of the schema. -/
def Schema.EdgesJoinModels (s : Schema) : Prop :=
  ∀ e ∈ s.edges, e.source ∈ s.modelNames ∧ e.target ∈ s.modelNames

namespace Schema

variable {s : Schema}

theorem edgesJoinModels_removeModel (joined : s.EdgesJoinModels) (name : String) :
    (s.removeModel name).EdgesJoinModels := by
  intro e member
  simp only [removeModel, List.mem_filter, Bool.and_eq_true, bne_iff_ne] at member
  obtain ⟨member, source, target⟩ := member
  have kept {end_ : String} (named : end_ ∈ s.modelNames) (other : end_ ≠ name) :
      end_ ∈ (s.removeModel name).modelNames := by
    obtain ⟨m, inside, rfl⟩ := List.mem_map.1 named
    exact List.mem_map_of_mem (List.mem_filter.2 ⟨inside, bne_iff_ne.2 other⟩)
  exact ⟨kept (joined e member).1 source, kept (joined e member).2 target⟩

theorem edgesJoinModels_replaceModel (joined : s.EdgesJoinModels) (name : String) (new : Model) :
    (s.replaceModel name new).EdgesJoinModels := by
  intro e' member
  obtain ⟨e, inside, -, rfl⟩ := mem_edges_replaceModel_iff.1 member
  -- An end that names the model follows the new name; another keeps its model.
  have kept {end_ : String} (named : end_ ∈ s.modelNames) :
      (if end_ = name then new.name else end_) ∈ (s.replaceModel name new).modelNames := by
    obtain ⟨m, found, rfl⟩ := List.mem_map.1 named
    rw [modelNames, List.mem_map]
    split
    · rename_i replaced
      exact ⟨new, mem_models_replaceModel_iff.2 (.inr ⟨replaced ▸ named, rfl⟩), rfl⟩
    · rename_i other
      exact ⟨m, mem_models_replaceModel_iff.2 (.inl ⟨found, other⟩), rfl⟩
  exact ⟨kept (joined e inside).1, kept (joined e inside).2⟩

theorem edgesJoinModels_addModel (joined : s.EdgesJoinModels) (m : Model) :
    (s.addModel m).EdgesJoinModels := by
  have grown : ∀ name ∈ s.modelNames, name ∈ (s.addModel m).modelNames := by
    simp only [modelNames, addModel, List.map_append]
    exact fun name member => List.mem_append_left _ member
  exact fun e member => ⟨grown _ (joined e member).1, grown _ (joined e member).2⟩

theorem edgesJoinModels_connect {s' : Schema} {source target : String}
    {sourceHandle targetHandle : Option String} (joined : s.EdgesJoinModels)
    (connected : s.connect source sourceHandle target targetHandle = .ok s') :
    s'.EdgesJoinModels := by
  obtain ⟨names, ⟨-, rfl⟩ | ⟨-, rfl⟩⟩ := connect_eq_ok connected
  · exact joined
  · intro e member
    rcases List.mem_append.1 member with earlier | last
    · exact joined e earlier
    · rw [List.mem_singleton.1 last]
      exact names

theorem edgesJoinModels_asWritten (joined : s.EdgesJoinModels) : s.asWritten.EdgesJoinModels := by
  have names : s.asWritten.modelNames = s.modelNames := by
    simp [modelNames, asWritten, Model.asWritten, Function.comp_def]
  intro e' member
  obtain ⟨e, inside, rfl⟩ := List.mem_map.1 member
  rw [names]
  exact joined e inside

end Schema

theorem Diagram.edgesJoinModels_after {d : Diagram} (joined : d.schema.EdgesJoinModels)
    (c : Change) : (d.after c).schema.EdgesJoinModels := by
  cases c with
  | removeModel name => exact Schema.edgesJoinModels_removeModel joined name
  | replaceModel name new => exact Schema.edgesJoinModels_replaceModel joined name new
  | addModel m => exact Schema.edgesJoinModels_addModel joined _
  | connect source sourceHandle target targetHandle =>
      exact after_connect_induction joined fun _ connected =>
        Schema.edgesJoinModels_connect joined connected
  | reload grid =>
      rw [after_reload]
      exact Schema.edgesJoinModels_asWritten joined

/-- **Edges join models after every run of changes**, if they did so before. -/
theorem Diagram.edgesJoinModels_run {d : Diagram} (joined : d.schema.EdgesJoinModels)
    (changes : List Change) : (d.run changes).schema.EdgesJoinModels :=
  run_induction (P := fun e => e.schema.EdgesJoinModels) joined
    fun c _ _ joined => edgesJoinModels_after joined c

/-- From the empty diagram, through a connection that fails and one that is drawn, a
renamed model and a document. -/
theorem Diagram.edgesJoinModels_run_from_empty :
    let d : Diagram := { schema := {} }
    let changes : List Change :=
      [.addModel none, .addModel (some (.starter "A")), .connect "A" none "B" none,
        .connect "A" (some "id-source") "NewModel" none, .replaceModel "NewModel" (.starter "B"),
        .replaceModel "A" { name := "A", fields := [.derived "id" "B" []] },
        .reload .standard]
    d.schema.EdgesJoinModels ∧ (d.run changes).schema.edges.map (·.target) = ["B"] ∧
      (d.run changes).schema.EdgesJoinModels :=
  ⟨by simp [Schema.EdgesJoinModels], by decide +kernel,
    edgesJoinModels_run (by simp [Schema.EdgesJoinModels]) _⟩

end SchemaDiagram
