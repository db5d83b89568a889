/-
# SchemaDiagram.Proofs.Schema.EditRun -- edits one after another

A run takes one edit after another; one that is refused leaves the model as it is
(`Model.run`).  If the fields of a model are derived, they are after any run
(`isDerived_run`).

An edit touches one field only: `Edit.Frames` says where the other fields are after
it, and that no other is there.  It is refused for its position exactly if no field
stands there (`Edit.apply_eq_noField_iff`).  To add an attribute that a derived field
does not have and to drop it again gives the field again (`toggleModifier_twice`).
-/
import SchemaDiagram.Proofs.Schema.Editing

namespace SchemaDiagram

set_option autoImplicit false

namespace Model

/-- Each field of the model is derived. -/
def IsDerived (m : Model) : Prop :=
  ∀ f ∈ m.fields, f.IsDerived

instance (m : Model) : Decidable m.IsDerived :=
  inferInstanceAs (Decidable (∀ f ∈ m.fields, f.IsDerived))

variable {m new : Model}

/-! ## One edit -/

namespace Edit

/-- The position at which the edit looks for a field.  A change under the name of the
model or of the position says it twice, and nothing is looked for. -/
def index? : Edit → Option Int
  | addField _ | rename _ => none
  | updateField index changes => if takenKey? changes = none then some index else none
  | removeField index | toggleModifier index _ => some index

/-- Where the fields of `m` are in `new`, but for the one that the edit is about. -/
def Frames (m new : Model) : Edit → Prop
  | addField _ => new.name = m.name ∧ ∃ f, new.fields = m.fields ++ [f]
  | updateField index _ | toggleModifier index _ =>
      new.name = m.name ∧ new.fields.length = m.fields.length ∧
        ∀ j : Nat, (j : Int) ≠ index → new.fields[j]? = m.fields[j]?
  | removeField index =>
      new.name = m.name ∧ new.fields.length + 1 = m.fields.length ∧
        (∀ j : Nat, (j : Int) < index → new.fields[j]? = m.fields[j]?) ∧
          ∀ j : Nat, index ≤ j → new.fields[j]? = m.fields[j + 1]?
  | rename name => new.name = name ∧ new.fields = m.fields

end Edit

theorem frames_set {i : Fin m.fields.length} {f : Field} :
    (m.fields.set i f).length = m.fields.length ∧
      ∀ j : Nat, (j : Int) ≠ i → (m.fields.set i f)[j]? = m.fields[j]? := by
  refine ⟨List.length_set, fun j other => List.getElem?_set_ne ?_⟩
  omega

/-- An edit leaves the other fields alone. -/
theorem Edit.frames {edit : Edit} (edited : edit.apply m = .ok new) : edit.Frames m new := by
  cases edit with
  | addField d =>
      obtain ⟨f, -, rfl⟩ := addDraft_eq_ok edited
      exact ⟨rfl, f, rfl⟩
  | updateField index changes =>
      obtain ⟨i, f, rfl, -, -, rfl⟩ := updateFieldBy_eq_ok edited
      exact ⟨rfl, frames_set⟩
  | removeField index =>
      obtain ⟨i, rfl, rfl⟩ := removeField_eq_ok edited
      refine ⟨rfl, ?_, fun j before => ?_, fun j behind => ?_⟩
      · exact List.length_eraseIdx_add_one i.isLt
      · exact List.getElem?_eraseIdx_of_lt (by omega)
      · exact List.getElem?_eraseIdx_of_ge (by omega)
  | toggleModifier index modifier =>
      obtain ⟨i, f, rfl, -, -, rfl⟩ := toggleModifierBy_eq_ok edited
      exact ⟨rfl, frames_set⟩
  | rename name =>
      cases edited
      exact ⟨rfl, rfl⟩

/-! ## Positions without a field -/

section NoField

variable {at_ : Int} {name : String} {index : Int}

/-- Of a step that needs a field and never misses one itself: it misses the field
exactly if none stands at the position. -/
theorem position?_bind_eq_noField_iff {f : Fin m.fields.length → Except EditError Model}
    (never : ∀ i : Fin m.fields.length, at_ = i → f i ≠ .error (.noField name index)) :
    (m.position? at_ >>= f) = .error (.noField name index) ↔
      name = m.name ∧ index = at_ ∧ (at_ < 0 ∨ m.fields.length ≤ at_) := by
  rw [bind_eq_error_iff, position?_eq_error_iff, EditError.noField.injEq, and_assoc,
    or_iff_left_iff_imp]
  rintro ⟨i, found, missed⟩
  exact absurd missed (never i (position?_eq_ok_iff.1 found))

theorem updateFieldBy_eq_noField_iff {changes : Members} :
    m.updateFieldBy at_ changes = .error (.noField name index) ↔
      takenKey? changes = none ∧
        name = m.name ∧ index = at_ ∧ (at_ < 0 ∨ m.fields.length ≤ at_) := by
  unfold updateFieldBy
  cases taken : takenKey? changes with
  | some key => exact iff_of_false (fun missed => nomatch missed) (fun free => nomatch free.1)
  | none =>
      rw [and_iff_right rfl]
      refine position?_bind_eq_noField_iff fun i _ missed => ?_
      dsimp only at missed
      split at missed
      · cases missed
      · obtain drafted | ⟨f, -, done⟩ := bind_eq_error_iff.1 missed
        · obtain ⟨fault, -, other⟩ := mapError_eq_error_iff.1 drafted
          cases other
        · cases done

theorem toggleModifierBy_eq_noField_iff {modifier : Value} :
    m.toggleModifierBy at_ modifier = .error (.noField name index) ↔
      name = m.name ∧ index = at_ ∧ (at_ < 0 ∨ m.fields.length ≤ at_) := by
  unfold toggleModifierBy
  split
  · refine position?_bind_eq_noField_iff fun i here missed => ?_
    rw [updateField_eq_ok_iff.2 ⟨i, here, rfl⟩] at missed
    cases missed
  · refine position?_bind_eq_noField_iff fun i here missed => ?_
    obtain ⟨-, -, -, outside⟩ := updateFieldBy_eq_noField_iff.1 missed
    omega

/-- An edit misses its field exactly if none stands at its position. -/
theorem Edit.apply_eq_noField_iff {edit : Edit} :
    edit.apply m = .error (.noField name index) ↔
      name = m.name ∧ edit.index? = some index ∧ (index < 0 ∨ m.fields.length ≤ index) := by
  cases edit with
  | addField d =>
      refine iff_of_false (fun failed => ?_) (by simp [index?])
      obtain drafted | ⟨f, -, done⟩ := bind_eq_error_iff.1 failed
      · obtain ⟨fault, -, other⟩ := mapError_eq_error_iff.1 drafted
        cases other
      · cases done
  | updateField at_ changes =>
      rw [apply, updateFieldBy_eq_noField_iff, index?]
      split <;> simp_all [eq_comm]
  | removeField at_ =>
      have missed : m.removeField at_ = .error (.noField name index) ↔ _ :=
        position?_bind_eq_noField_iff fun i _ => by simp [pure, Except.pure]
      rw [apply, missed, index?]
      simp_all [eq_comm]
  | toggleModifier at_ modifier =>
      rw [apply, toggleModifierBy_eq_noField_iff, index?]
      simp_all [eq_comm]
  | rename new => exact iff_of_false (by simp [apply]) (by simp [index?])

end NoField

/-! ## An attribute added and dropped -/

/-- What a toggled attribute leaves of the attributes of a field. -/
def toggled (modifiers : List String) (s : String) : List String :=
  if modifiers.contains s then modifiers.filter (· != s) else modifiers ++ [s]

theorem toggled_twice {modifiers : List String} {s : String} (absent : s ∉ modifiers) :
    toggled (toggled modifiers s) s = modifiers := by
  have others : modifiers.filter (· != s) = modifiers := by
    rw [List.filter_eq_self]
    intro t member
    rw [bne_iff_ne]
    rintro rfl
    exact absent member
  simp [toggled, absent, others]

theorem toggleModifier_eq_ok_iff {index : Int} {s : String} :
    m.toggleModifier index s = .ok new ↔ ∃ i : Fin m.fields.length, index = i ∧
      new = { m with fields := m.fields.set i (.derived (m.fields.get i).name
        (m.fields.get i).type (toggled (m.fields.get i).modifiers s)) } := by
  simp only [toggleModifier, bind_eq_ok_iff, position?_eq_ok_iff, updateField_eq_ok_iff]
  constructor
  · rintro ⟨i, rfl, j, same, rfl⟩
    obtain rfl : i = j := Fin.ext (by omega)
    exact ⟨i, rfl, rfl⟩
  · rintro ⟨i, rfl, rfl⟩
    exact ⟨i, rfl, i, rfl, rfl⟩

/-- A derived field that gets an attribute and loses it again is what it was. -/
theorem toggleModifier_twice {i : Fin m.fields.length} (derived : (m.fields.get i).IsDerived)
    {s : String} (absent : s ∉ (m.fields.get i).modifiers) :
    ∃ once, m.toggleModifier i s = .ok once ∧ once.toggleModifier i s = .ok m := by
  set f := m.fields.get i with here
  let once : Field := .derived f.name f.type (toggled f.modifiers s)
  have back : Field.derived once.name once.type (toggled once.modifiers s) = f := by
    have modifiers : toggled once.modifiers s = f.modifiers := toggled_twice absent
    rw [modifiers]
    exact derived.symm
  have placed : (m.fields.set i once).get ⟨i, by simp⟩ = once := by simp
  refine ⟨_, toggleModifier_eq_ok_iff.2 ⟨i, rfl, rfl⟩,
    toggleModifier_eq_ok_iff.2 ⟨⟨i, by simp⟩, rfl, ?_⟩⟩
  rw [placed, back, List.set_set, here, List.get_eq_getElem, List.set_getElem_self]

/-! ## Runs -/

/-- What is left of the model; an edit that is refused changes nothing. -/
def after (m : Model) (edit : Edit) : Model :=
  match edit.apply m with
  | .ok new => new
  | .error _ => m

def run (m : Model) (edits : List Edit) : Model :=
  edits.foldl after m

theorem isDerived_after (derived : m.IsDerived) (edit : Edit) : (m.after edit).IsDerived := by
  rw [after]
  split
  · rename_i new edited
    exact fun f member => (Edit.mem_fields edited f member).elim (derived f) id
  · exact derived

/-- Derived fields stay derived. -/
theorem isDerived_run (derived : m.IsDerived) (edits : List Edit) : (m.run edits).IsDerived := by
  induction edits generalizing m with
  | nil => exact derived
  | cons edit rest ih => exact ih (isDerived_after derived edit)

/-- **Edits of a model with derived fields.**  After any run the fields are derived, and
whatever is then edited, an edit touches no other field, is refused for its position
exactly if no field stands there, and an attribute that is added and dropped again leaves
the model as it was. -/
theorem run_of_isDerived (m : Model) (derived : m.IsDerived) (edits : List Edit) :
    let now := m.run edits
    now.IsDerived ∧
      (∀ (edit : Edit) (new : Model), edit.apply now = .ok new → edit.Frames now new) ∧
      (∀ (edit : Edit) (name : String) (index : Int),
        edit.apply now = .error (.noField name index) ↔
          name = now.name ∧ edit.index? = some index ∧
            (index < 0 ∨ now.fields.length ≤ index)) ∧
      ∀ (i : Fin now.fields.length) (s : String), s ∉ (now.fields.get i).modifiers →
        ∃ once, (Edit.toggleModifier i (.text s)).apply now = .ok once ∧
          (Edit.toggleModifier i (.text s)).apply once = .ok now := by
  intro now
  have derived : now.IsDerived := isDerived_run derived edits
  refine ⟨derived, fun edit new => Edit.frames, fun edit name index =>
    Edit.apply_eq_noField_iff, fun i s absent => ?_⟩
  exact toggleModifier_twice (derived _ (List.get_mem _ i)) absent

/-- An attribute is added, a position without a field is refused, a field is added and
then one before it removed. -/
theorem run_of_isDerived_mixed :
    let m : Model := { name := "A", fields := [.derived "b" "B" ["?"], .derived "id" "Int" []] }
    let edits : List Edit := [.toggleModifier 1 (.text "@id"), .removeField 4,
      .addField (.ofTexts "c" "C[]" ["@relation(x)"]), .removeField 0]
    m.IsDerived ∧
      (m.run edits).fields =
        [.derived "id" "Int" ["@id"], .derived "c" "C[]" ["@relation(x)"]] ∧
      (m.run edits).IsDerived ∧
      ∃ once, (Edit.toggleModifier 0 (.text "?")).apply (m.run edits) = .ok once ∧
        (Edit.toggleModifier 0 (.text "?")).apply once = .ok (m.run edits) := by
  intro m edits
  have derived : m.IsDerived := by decide +kernel
  have fields : (m.run edits).fields =
      [.derived "id" "Int" ["@id"], .derived "c" "C[]" ["@relation(x)"]] := by decide +kernel
  have absent : ∀ f ∈ (m.run edits).fields, "?" ∉ f.modifiers := by
    rw [fields]
    decide +kernel
  obtain ⟨after, -, -, twice⟩ := run_of_isDerived m derived edits
  exact ⟨derived, fields, after,
    twice ⟨0, by rw [fields]; decide⟩ "?" (absent _ (List.get_mem _ _))⟩

end Model

end SchemaDiagram
