/-
# SchemaDiagram.Proofs.Schema.Editing -- what an edit does to a model

`Model.Edit` has all edits, with arguments of any kind.  An edit that succeeds adds
a field behind the others, puts one in the place of another, drops one, or renames
the model (`apply_cases`).  A field that it adds or puts somewhere is derived: its
relation flags are worked out from its type and its attributes (`Field.IsDerived`).

A field that is read or edited refers to the model that its type names, and only if
it is a relation field (`Field.RefersByType`).  A model is `Made` if it was read
from a text or is new, and was then edited any number of times; all its fields are
such fields (`Made.refersByType`).
-/
import SchemaDiagram.Proofs.Data.Checked
import SchemaDiagram.Proofs.Schema.Origin
import SchemaDiagram.Schema.Edit

namespace SchemaDiagram

set_option autoImplicit false

/-! ## Fields -/

/-- A relation field refers to the model that its type names, another field to
none. -/
def Field.RefersByType (f : Field) : Prop :=
  f.relationTo = if f.isRelation then some f.baseType else none

theorem Field.refersByType_ofParts (name type : String) (modifiers : List String)
    (isRelation : Bool) : (Field.ofParts name type modifiers isRelation).RefersByType := rfl

/-- The relation flags are what the type and the attributes come to. -/
def Field.IsDerived (f : Field) : Prop :=
  f = .derived f.name f.type f.modifiers

instance (f : Field) : Decidable f.IsDerived :=
  inferInstanceAs (Decidable (f = .derived f.name f.type f.modifiers))

theorem Field.isDerived_derived (name type : String) (modifiers : List String) :
    (Field.derived name type modifiers).IsDerived := rfl

theorem Field.IsDerived.refersByType {f : Field} (derived : f.IsDerived) : f.RefersByType := by
  rw [derived]
  exact Field.refersByType_ofParts _ _ _ _

namespace Draft

/-- An attribute that is read as a text mentions the annotation if the text does. -/
theorem eq_contains_of_mentions {v : Value} {marked : Bool} {s : String}
    (mentioned : mentions v = .ok marked) (read : Checked.text v = .ok s) :
    marked = Text.contains mark s := by
  rw [mentions] at mentioned
  rw [Checked.text] at read
  split at mentioned
  · rename_i text kind
    rw [kind] at read
    cases read
    cases mentioned
    rfl
  · cases mentioned
  · rename_i notText notBytes
    split at read
    · exact absurd ‹_› (notText _)
    · exact absurd ‹_› (notBytes _)
    · cases read

theorem eq_any_of_anyMentions {vs : List Value} {marked : Bool} {texts : List String}
    {index : Nat} (mentioned : anyMentions vs = .ok marked)
    (read : Checked.itemsFrom Checked.text index vs = .ok texts) :
    marked = texts.any (Text.contains mark) := by
  induction vs generalizing texts index with
  | nil =>
      cases mentioned
      cases read
      rfl
  | cons v vs ih =>
      simp only [Checked.itemsFrom, Checked.apply_eq_ok_iff, Checked.under_eq_ok_iff] at read
      obtain ⟨_, rest, ⟨_, s, cons, first, rfl⟩, later, rfl⟩ := read
      cases cons
      rw [anyMentions, bind_eq_ok_iff] at mentioned
      obtain ⟨here, asked, mentioned⟩ := mentioned
      have here := eq_contains_of_mentions asked first
      rw [List.any_cons, ← here]
      -- What stands behind an attribute that mentions it is not looked at.
      split at mentioned
      · rename_i found
        cases mentioned
        rw [found, Bool.true_or]
      · rename_i missed
        rw [Bool.not_eq_true] at missed
        rw [missed, Bool.false_or, ih mentioned later]

/-- What a draft makes is derived, and has the type of the draft. -/
theorem field_eq_ok {d : Draft} {f : Field} (made : d.field = .ok f) :
    f.IsDerived ∧ d.type = .text f.type := by
  simp only [Draft.field, bind_eq_ok_iff] at made
  obtain ⟨modifiers, -, marked, mentioned, made⟩ := made
  split at made
  · rename_i type typed
    simp only [mapError_eq_ok_iff, Checked.apply_eq_ok_iff, Checked.under_eq_ok_iff] at made
    obtain ⟨_, texts, ⟨_, name, parts, -, rfl⟩, read, rfl⟩ := made
    cases parts
    have marks := eq_any_of_anyMentions mentioned read
    refine ⟨?_, typed⟩
    rw [marks]
    exact Field.isDerived_derived name type texts
  · cases made

end Draft

/-! ## Edits -/

namespace Model

/-- Each field of the model refers by its type. -/
def RefersByType (m : Model) : Prop :=
  ∀ f ∈ m.fields, f.RefersByType

inductive Edit where
  | addField (d : Draft)
  | updateField (index : Int) (changes : Members)
  | removeField (index : Int)
  | toggleModifier (index : Int) (modifier : Value)
  | rename (name : String)

namespace Edit

def apply (m : Model) : Edit → Except EditError Model
  | addField d => m.addDraft d
  | updateField index changes => m.updateFieldBy index changes
  | removeField index => m.removeField index
  | toggleModifier index modifier => m.toggleModifierBy index modifier
  | rename name => .ok (m.rename name)

end Edit

variable {m new : Model}

theorem position?_eq_ok_iff {index : Int} {i : Fin m.fields.length} :
    m.position? index = .ok i ↔ index = i := by
  rw [position?]
  split
  · rename_i inside
    rw [Except.ok.injEq, Fin.ext_iff, Fin.val_mk]
    omega
  · rename_i outside
    refine iff_of_false (by simp) ?_
    rintro rfl
    exact outside ⟨Int.natCast_nonneg _, by simp⟩

theorem position?_eq_error_iff {index : Int} {e : EditError} :
    m.position? index = .error e ↔
      e = .noField m.name index ∧ (index < 0 ∨ m.fields.length ≤ index) := by
  rw [position?]
  split
  · rename_i inside
    refine iff_of_false (by simp) fun outside => ?_
    obtain ⟨-, outside⟩ := outside
    omega
  · rename_i outside
    rw [Except.error.injEq, eq_comm, iff_self_and]
    omega

theorem addDraft_eq_ok {d : Draft} (added : m.addDraft d = .ok new) :
    ∃ f : Field, f.IsDerived ∧ new = { m with fields := m.fields ++ [f] } := by
  simp only [addDraft, bind_eq_ok_iff, mapError_eq_ok_iff] at added
  obtain ⟨f, made, added⟩ := added
  cases added
  exact ⟨f, (Draft.field_eq_ok made).1, rfl⟩

theorem updateFieldBy_eq_ok {index : Int} {changes : Members}
    (updated : m.updateFieldBy index changes = .ok new) :
    ∃ (i : Fin m.fields.length) (f : Field), index = i ∧ f.IsDerived ∧
      (Members.get? "type" changes = none → f.type = (m.fields.get i).type) ∧
        new = { m with fields := m.fields.set i f } := by
  unfold updateFieldBy at updated
  split at updated
  · cases updated
  · simp only [bind_eq_ok_iff] at updated
    obtain ⟨i, found, updated⟩ := updated
    split at updated
    · cases updated
    · simp only [bind_eq_ok_iff, mapError_eq_ok_iff] at updated
      obtain ⟨f, made, updated⟩ := updated
      cases updated
      obtain ⟨derived, typed⟩ := Draft.field_eq_ok made
      refine ⟨i, f, position?_eq_ok_iff.1 found, derived, fun same => ?_, rfl⟩
      rw [same, Option.getD_none, Value.scalar.injEq, Scalar.text.injEq] at typed
      exact typed.symm

theorem updateField_eq_ok_iff {index : Int} {changes : FieldChanges} :
    m.updateField index changes = .ok new ↔ ∃ i : Fin m.fields.length, index = i ∧
      new = { m with fields := m.fields.set i (changes.applyTo (m.fields.get i)) } := by
  simp only [updateField, bind_eq_ok_iff, position?_eq_ok_iff]
  exact exists_congr fun i => and_congr_right fun _ =>
    ⟨fun updated => (Except.ok.inj updated).symm, fun updated => updated ▸ rfl⟩

theorem toggleModifierBy_eq_ok {index : Int} {modifier : Value}
    (toggled : m.toggleModifierBy index modifier = .ok new) :
    ∃ (i : Fin m.fields.length) (f : Field), index = i ∧ f.IsDerived ∧
      f.type = (m.fields.get i).type ∧ new = { m with fields := m.fields.set i f } := by
  unfold toggleModifierBy at toggled
  split at toggled
  · simp only [toggleModifier, bind_eq_ok_iff] at toggled
    obtain ⟨_, -, updated⟩ := toggled
    obtain ⟨i, here, rfl⟩ := updateField_eq_ok_iff.1 updated
    exact ⟨i, _, here, Field.isDerived_derived _ _ _, rfl, rfl⟩
  · simp only [bind_eq_ok_iff] at toggled
    obtain ⟨_, -, updated⟩ := toggled
    obtain ⟨i, f, here, derived, typed, rfl⟩ := updateFieldBy_eq_ok updated
    exact ⟨i, f, here, derived, typed rfl, rfl⟩

theorem removeField_eq_ok {index : Int} (removed : m.removeField index = .ok new) :
    ∃ i : Fin m.fields.length, index = i ∧ new = { m with fields := m.fields.eraseIdx i } := by
  simp only [removeField, bind_eq_ok_iff, position?_eq_ok_iff] at removed
  obtain ⟨i, here, removed⟩ := removed
  cases removed
  exact ⟨i, here, rfl⟩

/-- All that an edit can do. -/
theorem Edit.apply_cases {edit : Edit} (edited : edit.apply m = .ok new) :
    (∃ f : Field, f.IsDerived ∧ new = { m with fields := m.fields ++ [f] }) ∨
      (∃ i, ∃ f : Field, f.IsDerived ∧ new = { m with fields := m.fields.set i f }) ∨
        (∃ i, new = { m with fields := m.fields.eraseIdx i }) ∨ ∃ name, new = m.rename name := by
  cases edit with
  | addField d => exact .inl (addDraft_eq_ok edited)
  | updateField index changes =>
      obtain ⟨i, f, -, derived, -, set⟩ := updateFieldBy_eq_ok edited
      exact .inr (.inl ⟨i, f, derived, set⟩)
  | removeField index =>
      obtain ⟨i, -, erased⟩ := removeField_eq_ok edited
      exact .inr (.inr (.inl ⟨i, erased⟩))
  | toggleModifier index modifier =>
      obtain ⟨i, f, -, derived, -, set⟩ := toggleModifierBy_eq_ok edited
      exact .inr (.inl ⟨i, f, derived, set⟩)
  | rename name =>
      cases edited
      exact .inr (.inr (.inr ⟨name, rfl⟩))

/-- A field of an edited model was there before, or the edit derived it. -/
theorem Edit.mem_fields {edit : Edit} (edited : edit.apply m = .ok new) :
    ∀ f ∈ new.fields, f ∈ m.fields ∨ f.IsDerived := by
  intro f member
  rcases Edit.apply_cases edited with
    ⟨g, derived, rfl⟩ | ⟨i, g, derived, rfl⟩ | ⟨i, rfl⟩ | ⟨name, rfl⟩
  · rcases List.mem_append.1 member with earlier | last
    · exact .inl earlier
    · exact .inr (List.mem_singleton.1 last ▸ derived)
  · rcases List.mem_or_eq_of_mem_set member with kept | rfl
    · exact .inl kept
    · exact .inr derived
  · exact .inl (List.mem_of_mem_eraseIdx member)
  · exact .inl member

theorem Edit.refersByType {edit : Edit} (edited : edit.apply m = .ok new)
    (each : m.RefersByType) : new.RefersByType :=
  fun f member => (Edit.mem_fields edited f member).elim (each f) Field.IsDerived.refersByType

/-! ## Models that texts and edits make -/

/-- A model that was read from a text or is new, edited any number of times. -/
inductive Made : Model → Prop where
  | read {text : String} {resolveBackFields : Bool} {m : Model}
      (member : m ∈ (Schema.ofText text resolveBackFields).models) : Made m
  | starter (name : String) : Made (.starter name)
  | edited {m new : Model} {edit : Edit} (made : Made m) (edited : edit.apply m = .ok new) :
      Made new

theorem Made.refersByType (made : Made m) : m.RefersByType := by
  induction made with
  | read member =>
      intro f inside
      obtain ⟨line, -, declared⟩ := Schema.readField_of_mem_models member f inside
      obtain ⟨name, type, rest, -, rfl⟩ := Field.ofLine?_eq_some_iff.1 declared
      exact Field.refersByType_ofParts _ _ _ _
  | starter name =>
      intro f inside
      simp only [Model.starter, List.mem_cons, List.not_mem_nil, or_false] at inside
      rcases inside with rfl | rfl | rfl <;> exact Field.refersByType_ofParts _ _ _ _
  | edited _ edited ih => exact Edit.refersByType edited ih

end Model

end SchemaDiagram
