/-
# SchemaDiagram.Proofs.Diagram.Readability -- which documents are read

The shape of documents speaks of the keys of relation details as they are written.
They are read in snake case, and of two keys that become the same the later counts.
So a document can have the shape and hold under `on_delete` what is no text: the
shape does not know that key.  Such a document is neither read nor called misshapen
(`numbered_action_not_read`).

There is no other way to fail.  A document of the right shape is read exactly if the
details of its edges are `Readable` (`readsOrRefuses_iff`).  They are if the four
keys that count are spelled as the shape spells them (`PlainlySpelled`).
-/
import SchemaDiagram.Diagram.Document
import SchemaDiagram.Proofs.Check.Shape
import SchemaDiagram.Proofs.Data.Checked

namespace SchemaDiagram

set_option autoImplicit false

open Value

/-! ## Keys in snake case -/

namespace Members

/-- What stands under `name` once the keys are in snake case: the value of the last
member whose key becomes `name`. -/
def lastUnder? (name : String) : Members → Option Value
  | [] => none
  | (key, v) :: rest =>
      (lastUnder? name rest).or (if (snakeKey key).toOption = some name then some v else none)

/-- Write a member under its key in snake case. -/
def putSnake (acc : Members) (m : Scalar × Value) : Except DocumentError Members :=
  return put (← snakeKey m.1) m.2 acc

theorem snakeMembers_eq : snakeMembers = List.foldlM putSnake [] := rfl

variable {members details acc acc' : Members} {name : String}

theorem putSnake_eq_ok_iff {m : Scalar × Value} :
    putSnake acc m = .ok acc' ↔ ∃ key, snakeKey m.1 = .ok key ∧ put key m.2 acc = acc' := by
  rw [putSnake, bind_eq_ok_iff]
  simp [pure, Except.pure]

theorem get?_foldlM_putSnake (written : members.foldlM putSnake acc = .ok details) :
    get? name details = (lastUnder? name members).or (get? name acc) := by
  induction members generalizing acc with
  | nil =>
      cases written
      rfl
  | cons m rest ih =>
      rw [List.foldlM_cons, bind_eq_ok_iff] at written
      obtain ⟨next, first, written⟩ := written
      obtain ⟨key, snake, rfl⟩ := putSnake_eq_ok_iff.1 first
      rw [ih written, get?_put, lastUnder?, snake, Option.or_assoc]
      by_cases same : key = name
      · simp [same, Scalar.isSameKey_text_iff, Except.toOption]
      · simp [same, Ne.symm same, Scalar.isSameKey_text_iff, Except.toOption]

theorem get?_snakeMembers (written : snakeMembers members = .ok details) :
    get? name details = lastUnder? name members := by
  rw [snakeMembers_eq] at written
  rw [get?_foldlM_putSnake written]
  exact Option.or_none

theorem succeeds_foldlM_putSnake_iff :
    Succeeds (members.foldlM putSnake acc) ↔ ∀ m ∈ members, Succeeds (snakeKey m.1) := by
  induction members generalizing acc with
  | nil => simp [pure, Except.pure]
  | cons m rest ih =>
      rw [List.foldlM_cons, succeeds_bind_iff, List.forall_mem_cons]
      constructor
      · rintro ⟨next, first, later⟩
        obtain ⟨key, snake, -⟩ := putSnake_eq_ok_iff.1 first
        exact ⟨⟨key, snake⟩, ih.1 later⟩
      · rintro ⟨⟨key, snake⟩, later⟩
        exact ⟨_, putSnake_eq_ok_iff.2 ⟨key, snake, rfl⟩, ih.2 later⟩

theorem succeeds_snakeMembers_iff :
    Succeeds (snakeMembers members) ↔ ∀ m ∈ members, Succeeds (snakeKey m.1) := by
  rw [snakeMembers_eq]
  exact succeeds_foldlM_putSnake_iff

/-- What is found under a name in snake case was written under a key that becomes it. -/
theorem exists_key_of_lastUnder? {v : Value} (found : lastUnder? name members = some v) :
    ∃ key, (key, v) ∈ members ∧ snakeKey key = .ok name := by
  induction members with
  | nil => cases found
  | cons m rest ih =>
      obtain ⟨key, w⟩ := m
      rw [lastUnder?, Option.or_eq_some_iff, Option.ite_none_right_eq_some] at found
      rcases found with later | ⟨-, snake, ⟨⟩⟩
      · obtain ⟨key', member, snake⟩ := ih later
        exact ⟨key', List.mem_cons_of_mem _ member, snake⟩
      · cases converted : snakeKey key with
        | ok s =>
            rw [converted, Except.toOption, Option.some.injEq] at snake
            exact ⟨key, List.mem_cons_self, snake ▸ converted⟩
        | error e =>
            rw [converted] at snake
            cases snake

end Members

/-- Only a text has a snake case, and so have no bytes. -/
theorem succeeds_snakeKey_iff {key : Scalar} :
    Succeeds (snakeKey key) ↔ (∃ s, key = .text s) ∨ key = .bytes [] := by
  rw [snakeKey.eq_def]
  split
  · simp
  · simp
  · rename_i notText notEmpty
    simpa using ⟨notText, notEmpty⟩

/-! ## Details of a relation -/

namespace RelationArgs

/-- Details that can be read. -/
structure Readable (details : Members) : Prop where
  keys : ∀ m ∈ details, (∃ s, m.1 = .text s) ∨ m.1 = .bytes []
  fields : ∀ v ∈ Members.lastUnder? "fields" details, v.IsTexts
  references : ∀ v ∈ Members.lastUnder? "references" details, v.IsTexts
  onDelete : ∀ v ∈ Members.lastUnder? "on_delete" details, v.IsTextOrNull
  onUpdate : ∀ v ∈ Members.lastUnder? "on_update" details, v.IsTextOrNull

variable {details : Members}

theorem succeeds_ofMembers_iff {m : Members} :
    Succeeds (ofMembers m) ↔
      (∀ v ∈ Members.get? "fields" m, v.IsTexts) ∧
        (∀ v ∈ Members.get? "references" m, v.IsTexts) ∧
          (∀ v ∈ Members.get? "on_delete" m, v.IsTextOrNull) ∧
            ∀ v ∈ Members.get? "on_update" m, v.IsTextOrNull := by
  simp only [ofMembers, Checked.succeeds_apply_iff, Checked.succeeds_member_iff,
    Checked.succeeds_listOf_text_iff, Checked.succeeds_textOrNull_iff, succeeds_ok, true_and,
    and_assoc]

theorem readable_iff :
    Readable details ↔ ∃ m, snakeMembers details = .ok m ∧ Succeeds (ofMembers m) := by
  constructor
  · intro readable
    obtain ⟨m, written⟩ := Members.succeeds_snakeMembers_iff.2 fun entry member =>
      succeeds_snakeKey_iff.2 (readable.keys entry member)
    refine ⟨m, written, succeeds_ofMembers_iff.2 ?_⟩
    simp only [Members.get?_snakeMembers written]
    exact ⟨readable.fields, readable.references, readable.onDelete, readable.onUpdate⟩
  · rintro ⟨m, written, read⟩
    have keys := Members.succeeds_snakeMembers_iff.1 ⟨m, written⟩
    simp only [succeeds_ofMembers_iff, Members.get?_snakeMembers written] at read
    obtain ⟨fields, references, onDelete, onUpdate⟩ := read
    exact { keys := fun entry member => succeeds_snakeKey_iff.1 (keys entry member)
            fields, references, onDelete, onUpdate }

end RelationArgs

/-! ## Edges and documents -/

/-- The details of the relation of a written edge. -/
def Edge.detailsOf (v : Value) : Members :=
  asMembers (Members.get? "relationDetails" (asMembers (v.get? "data")))

theorem Edge.succeeds_ofValue_iff {index : Nat} {v : Value} :
    Succeeds (Edge.ofValue index v) ↔ RelationArgs.Readable (detailsOf v) := by
  rw [RelationArgs.readable_iff, Edge.ofValue, succeeds_bind_iff]
  refine exists_congr fun m => and_congr Iff.rfl ?_
  rw [succeeds_bind_iff, ← succeeds_mapError_iff]
  exact exists_congr fun args => and_iff_left (succeeds_ok _)

theorem Edge.succeeds_ofValuesFrom_iff {index : Nat} {values : List Value} :
    Succeeds (Edge.ofValuesFrom index values) ↔
      ∀ v ∈ values, RelationArgs.Readable (detailsOf v) := by
  induction values generalizing index with
  | nil => simp [Edge.ofValuesFrom]
  | cons v rest ih =>
      rw [Edge.ofValuesFrom, succeeds_bind_iff, List.forall_mem_cons, ← ih,
        ← Edge.succeeds_ofValue_iff]
      constructor
      · rintro ⟨e, first, later⟩
        obtain ⟨es, others, -⟩ := succeeds_bind_iff.1 later
        exact ⟨⟨e, first⟩, ⟨es, others⟩⟩
      · rintro ⟨⟨e, first⟩, ⟨es, others⟩⟩
        exact ⟨e, first, succeeds_bind_iff.2 ⟨es, others, succeeds_ok _⟩⟩

/-- The details of every edge of the document can be read. -/
def Diagram.DetailsReadable (document : Value) : Prop :=
  ∀ v ∈ asItems (document.get? "edges"), RelationArgs.Readable (Edge.detailsOf v)

theorem Schema.succeeds_ofValue_iff {document : Value} :
    Succeeds (Schema.ofValue document) ↔ Diagram.DetailsReadable document := by
  rw [Schema.ofValue, succeeds_map_iff, Edge.succeeds_ofValuesFrom_iff, Diagram.DetailsReadable]

/-! ## Failures -/

/-- A failure in the details of a relation. -/
def DocumentError.InDetails : DocumentError → Prop
  | .misshapen _ => False
  | .invalid _ | .keyNotText _ => True

theorem failsWith_snakeMembers (members : Members) :
    FailsWith DocumentError.InDetails (snakeMembers members) := by
  have key (k : Scalar) : FailsWith DocumentError.InDetails (snakeKey k) := by
    intro e failed
    rw [snakeKey.eq_def] at failed
    split at failed <;> cases failed
    trivial
  have fold (acc : Members) :
      FailsWith DocumentError.InDetails (members.foldlM Members.putSnake acc) := by
    induction members generalizing acc with
    | nil => exact failsWith_ok _
    | cons m rest ih =>
        rw [List.foldlM_cons]
        exact ((key m.1).bind fun _ => failsWith_ok _).bind fun next => ih next
  exact fold []

theorem Edge.failsWith_ofValue (index : Nat) (v : Value) :
    FailsWith DocumentError.InDetails (Edge.ofValue index v) := by
  refine (failsWith_snakeMembers _).bind fun m => ?_
  exact (failsWith_mapError fun _ => trivial).bind fun _ => failsWith_ok _

theorem Edge.failsWith_ofValuesFrom (index : Nat) (values : List Value) :
    FailsWith DocumentError.InDetails (Edge.ofValuesFrom index values) := by
  induction values generalizing index with
  | nil => exact failsWith_ok _
  | cons v rest ih =>
      exact (Edge.failsWith_ofValue index v).bind fun _ =>
        (ih (index + 1)).bind fun _ => failsWith_ok _

theorem Schema.failsWith_ofValue (document : Value) :
    FailsWith DocumentError.InDetails (Schema.ofValue document) :=
  (Edge.failsWith_ofValuesFrom 0 _).map _

/-! ## Plain spelling -/

/-- The keys by which details are read, each with its spelling in the shape. -/
def RelationArgs.spellings : List (String × String) :=
  [("fields", "fields"), ("references", "references"), ("on_delete", "onDelete"),
    ("on_update", "onUpdate")]

/-- Keys are distinct texts, and those that become a key by which details are read
are spelled as in the shape. -/
structure RelationArgs.PlainlySpelled (details : Members) : Prop where
  distinct : (details.map (·.1)).Nodup
  texts : ∀ m ∈ details, ∃ s, m.1 = .text s
  spelled : ∀ m ∈ details, ∀ p ∈ spellings, snakeKey m.1 = .ok p.1 → m.1 = .text p.2

theorem RelationArgs.PlainlySpelled.get?_eq {details : Members} {p : String × String} {v : Value}
    (plain : PlainlySpelled details) (counts : p ∈ spellings)
    (found : Members.lastUnder? p.1 details = some v) : Members.get? p.2 details = some v := by
  obtain ⟨key, member, snake⟩ := Members.exists_key_of_lastUnder? found
  have spelled : key = .text p.2 := plain.spelled _ member p counts snake
  exact Members.get?_of_mem plain.distinct (spelled ▸ member)

namespace Shape

variable {v : Value}

theorem Fits.isText (fits : Fits .text v) : v.IsText :=
  .inl (fits_text_iff.1 fits)

theorem Fits.isTextOrNull (fits : Fits .textOrNull v) : v.IsTextOrNull :=
  (fits_textOrNull_iff.1 fits).imp_right .inl

theorem Fits.isTexts (fits : Fits (.listOf .text) v) : v.IsTexts := by
  obtain ⟨items, kind, each⟩ := fits_listOf_iff.1 fits
  exact ⟨items, by rw [kind, Value.entries?], fun item member => (each item member).isText⟩

theorem Fits.item {item : Shape} (fits : Fits (.listOf item) v) :
    ∀ w ∈ asItems (some v), Fits item w := by
  obtain ⟨items, kind, each⟩ := fits_listOf_iff.1 fits
  rw [asItems, Option.map_some, kind]
  exact each

end Shape

theorem Value.get?_asMembers (key : String) (v : Value) :
    Members.get? key (asMembers (some v)) = v.get? key := by
  rw [asMembers, Value.get?, Option.map_some]
  split
  · rename_i members kind
    rw [Option.some.inj kind]
  · rename_i other
    split
    · rename_i members kind
      exact absurd (congrArg some kind) (other members)
    · rfl

namespace RelationArgs

variable {v : Value}

/-- In details of the right shape what is read under a key fits the shape for its
spelling. -/
theorem PlainlySpelled.fits (plain : PlainlySpelled (asMembers (some v)))
    (fits : Shape.relationDetails.Fits v) (name key : String) (shape : Shape)
    (counts : (name, key) ∈ spellings)
    (named : (key, shape) ∈ [("fields", .listOf .text), ("references", .listOf .text),
      ("onDelete", .textOrNull), ("onUpdate", Shape.textOrNull)]) :
    ∀ w ∈ Members.lastUnder? name (asMembers (some v)), shape.Fits w := by
  intro w under
  have written : Members.get? key (asMembers (some v)) = some w := plain.get?_eq counts under
  rw [Value.get?_asMembers] at written
  exact fits.member named w written

/-- Details of the right shape can be read if they are spelled plainly. -/
theorem PlainlySpelled.readable (plain : PlainlySpelled (asMembers (some v)))
    (fits : Shape.relationDetails.Fits v) : Readable (asMembers (some v)) := by
  have under := plain.fits fits
  exact
    { keys := fun m member => .inl (plain.texts m member)
      fields := fun w found =>
        (under "fields" "fields" (.listOf .text) (by decide) (by simp) w found).isTexts
      references := fun w found =>
        (under "references" "references" (.listOf .text) (by decide) (by simp) w found).isTexts
      onDelete := fun w found =>
        (under "on_delete" "onDelete" .textOrNull (by decide) (by simp) w found).isTextOrNull
      onUpdate := fun w found =>
        (under "on_update" "onUpdate" .textOrNull (by decide) (by simp) w found).isTextOrNull }

/-- No details at all can be read. -/
theorem readable_nil : Readable [] where
  keys := by simp
  fields := by simp [Members.lastUnder?]
  references := by simp [Members.lastUnder?]
  onDelete := by simp [Members.lastUnder?]
  onUpdate := by simp [Members.lastUnder?]

end RelationArgs

/-- The shape of what an edge holds under `data`. -/
def Shape.edgeData : Shape :=
  .record []
    [("sourceField", .text),
      ("targetField", .textOrNull),
      ("relationType", .oneOf (Cardinality.all.map (·.name))),
      ("relationDetails", relationDetails)]

theorem Edge.readable_detailsOf {v : Value} (fits : Shape.edge.Fits v)
    (plain : RelationArgs.PlainlySpelled (detailsOf v)) :
    RelationArgs.Readable (detailsOf v) := by
  unfold detailsOf at plain ⊢
  cases data : v.get? "data" with
  | none => exact RelationArgs.readable_nil
  | some d =>
      rw [data, Value.get?_asMembers] at plain
      rw [Value.get?_asMembers]
      cases details : d.get? "relationDetails" with
      | none => exact RelationArgs.readable_nil
      | some w =>
          rw [details] at plain
          have shaped : Shape.edgeData.Fits d := fits.member (by simp [Shape.edgeData]) d data
          exact plain.readable (shaped.member (by simp) w details)

/-! ## Reading -/

namespace Diagram

/-- Reading the document gives a diagram or calls the document misshapen. -/
def ReadsOrRefuses (document : Value) (grid : Grid) : Prop :=
  Succeeds (ofDocument document grid) ∨
    ∃ messages, ofDocument document grid = .error (.misshapen messages)

variable {document : Value} {grid : Grid}

theorem detailsReadable_of_plainlySpelled (valid : (checkDocument document).valid = true)
    (plain : ∀ v ∈ asItems (document.get? "edges"),
      RelationArgs.PlainlySpelled (Edge.detailsOf v)) :
    DetailsReadable document := by
  intro v member
  have shaped : Shape.document.Fits document := checkDocument_valid_iff.1 valid
  cases edges : document.get? "edges" with
  | none =>
      rw [edges] at member
      cases member
  | some w =>
      have listed : (Shape.listOf .edge).Fits w := shaped.member (by simp) w edges
      rw [edges] at member
      exact Edge.readable_detailsOf (listed.item v member) (plain v (edges ▸ member))

theorem succeeds_ofDocument_iff :
    Succeeds (ofDocument document grid) ↔
      (checkDocument document).valid = true ∧ DetailsReadable document := by
  rw [ofDocument]
  cases (checkDocument document).valid with
  | false => simp
  | true => simp [succeeds_map_iff, Schema.succeeds_ofValue_iff]

theorem refuses_iff :
    (∃ messages, ofDocument document grid = .error (.misshapen messages)) ↔
      ¬ (checkDocument document).valid = true := by
  rw [ofDocument]
  cases (checkDocument document).valid with
  | false => simp
  | true =>
      have inDetails := (Schema.failsWith_ofValue document).map fun schema =>
        ({ schema, grid } : Diagram)
      simp only [if_true, not_true_eq_false, iff_false]
      exact fun ⟨messages, refused⟩ => inDetails _ refused

/-- **Every document is read or called misshapen** exactly if it can be read as soon as
it has the right shape, and that is so exactly if its details can then be read.  They
can if they are spelled plainly. -/
theorem readsOrRefuses_iff (document : Value) (grid : Grid) :
    (ReadsOrRefuses document grid ↔
        ((checkDocument document).valid = true → Succeeds (ofDocument document grid))) ∧
      (ReadsOrRefuses document grid ↔
        ((checkDocument document).valid = true → DetailsReadable document)) ∧
      ((checkDocument document).valid = true →
        (∀ v ∈ asItems (document.get? "edges"),
          RelationArgs.PlainlySpelled (Edge.detailsOf v)) →
        Succeeds (ofDocument document grid)) := by
  have read : ((checkDocument document).valid = true → Succeeds (ofDocument document grid)) ↔
      ((checkDocument document).valid = true → DetailsReadable document) := by
    refine imp_congr_right fun valid => ?_
    rw [succeeds_ofDocument_iff, and_iff_right valid]
  have refused : ReadsOrRefuses document grid ↔
      ((checkDocument document).valid = true → DetailsReadable document) := by
    rw [ReadsOrRefuses, refuses_iff, succeeds_ofDocument_iff]
    by_cases valid : (checkDocument document).valid = true <;> simp [valid]
  refine ⟨refused.trans read.symm, refused, fun valid plain => ?_⟩
  exact succeeds_ofDocument_iff.2 ⟨valid, detailsReadable_of_plainlySpelled valid plain⟩

/-- A document of the right shape with a number for an action, under the key by which
the action is read. -/
theorem numbered_action_not_read :
    let document : Value := .object
      [("nodes", .list []),
        ("edges", .list [.object
          [("id", .text "e"), ("source", .text "A"), ("target", .text "B"),
            ("data", .object [("relationDetails", .object [("on_delete", .int 5)])])]])]
    (checkDocument document).valid = true ∧
      ofDocument document .standard =
        .error (.invalid [{ path := [.key "on_delete"], mismatch := .notText }]) ∧
      ¬ ReadsOrRefuses document .standard := by
  intro document
  have valid : (checkDocument document).valid = true := by decide +kernel
  have failed : ofDocument document .standard =
      .error (.invalid [{ path := [.key "on_delete"], mismatch := .notText }]) := by
    rfl
  refine ⟨valid, failed, ?_⟩
  rw [ReadsOrRefuses, failed]
  simp

end Diagram

end SchemaDiagram
