/-
# SchemaDiagram.Schema.Edit -- editing a model

An edit gives a new model.  Whenever the type or the attributes of a field
change, its relation flags are worked out anew.  Fields are named by position;
a position outside the model is refused.

Each edit that takes texts has a second form, which takes values of any kind and
refuses those that make no field.
-/
import SchemaDiagram.Schema.Draft
import SchemaDiagram.Text.Order

namespace SchemaDiagram

set_option autoImplicit false

inductive EditError where
  | noField (model : String) (index : Int)
  /-- A change by a name that stands for the model or the position already. -/
  | taken (key : String)
  /-- Changes to something other than name, type and attributes. -/
  | unsupported (keys : List String)
  | draft (fault : DraftFault)
deriving DecidableEq, Repr, Inhabited

def EditError.message : EditError → String
  | noField model index =>
      "Model '" ++ model ++ "' has no field at index " ++ Text.decimalInt index
  | taken key => "update_field() got multiple values for argument '" ++ key ++ "'"
  | unsupported keys =>
      "Unsupported field changes: " ++ Text.join ", " (Text.ascending keys)
  | draft fault => fault.message

/-- What to change about a field; the rest of it stays. -/
structure FieldChanges where
  name : Option String := none
  type : Option String := none
  modifiers : Option (List String) := none
deriving DecidableEq, Repr, Inhabited

namespace FieldChanges

/-- The changed field. -/
def applyTo (c : FieldChanges) (f : Field) : Field :=
  .derived (c.name.getD f.name) (c.type.getD f.type) (c.modifiers.getD f.modifiers)

end FieldChanges

namespace Model

/-- The position of the field at `index`. -/
def position? (m : Model) (index : Int) : Except EditError (Fin m.fields.length) :=
  if h : 0 ≤ index ∧ index.toNat < m.fields.length then .ok ⟨index.toNat, h.2⟩
  else .error (.noField m.name index)

def addField (m : Model) (name type : String) (modifiers : List String) : Model :=
  { m with fields := m.fields ++ [.derived name type modifiers] }

def updateField (m : Model) (index : Int) (changes : FieldChanges) : Except EditError Model := do
  let i ← m.position? index
  return { m with fields := m.fields.set i (changes.applyTo (m.fields.get i)) }

def removeField (m : Model) (index : Int) : Except EditError Model := do
  let i ← m.position? index
  return { m with fields := m.fields.eraseIdx i }

/-- Drop an attribute wherever it occurs, or add it behind the others if it does
not occur. -/
def toggleModifier (m : Model) (index : Int) (modifier : String) : Except EditError Model := do
  let i ← m.position? index
  let current := (m.fields.get i).modifiers
  let modifiers :=
    if current.contains modifier then current.filter (· != modifier) else current ++ [modifier]
  m.updateField index { modifiers := some modifiers }

/-! ## With values of any kind -/

def addDraft (m : Model) (d : Draft) : Except EditError Model := do
  let f ← d.field.mapError .draft
  return { m with fields := m.fields ++ [f] }

/-- The keys of a change. -/
def changeKeys : List String := ["name", "type", "modifiers"]

/-- A key that stands for the model or the position already. -/
def takenKey? (changes : Members) : Option String :=
  (Members.textKeys changes).find? fun key => key == "model" || key == "index"

/-- `updateField` by the members of an object.  Their keys may not be names that
are taken; then the position is checked, then what is to change, and then the new
values. -/
def updateFieldBy (m : Model) (index : Int) (changes : Members) : Except EditError Model := do
  if let some key := takenKey? changes then throw (.taken key)
  let i ← m.position? index
  let unknown := (Members.textKeys changes).filter fun key => !changeKeys.contains key
  if unknown ≠ [] then throw (.unsupported unknown)
  let current := m.fields.get i
  let value (key : String) (otherwise : Value) : Value :=
    (Members.get? key changes).getD otherwise
  let d : Draft :=
    { name := value "name" (.text current.name)
      type := value "type" (.text current.type)
      modifiers := value "modifiers" (.ofTexts current.modifiers) }
  let f ← d.field.mapError .draft
  return { m with fields := m.fields.set i f }

/-- `toggleModifier` by any value; what is no text does not occur. -/
def toggleModifierBy (m : Model) (index : Int) (modifier : Value) : Except EditError Model := do
  match modifier with
  | .text s => m.toggleModifier index s
  | v =>
      let i ← m.position? index
      let modifiers := (m.fields.get i).modifiers.map .text ++ [v]
      m.updateFieldBy index [("modifiers", .list modifiers)]

/-! ## Names and new models -/

def rename (m : Model) (name : String) : Model :=
  { m with name }

/-- A new model has a key and two time stamps. -/
def starter (name : String) : Model where
  name
  fields :=
    [.derived "id" "String" ["@id", "@default(cuid())"],
      .derived "createdAt" "DateTime" ["@default(now())"],
      .derived "updatedAt" "DateTime" ["@updatedAt"]]

def starterName : String := "NewModel"

def newFieldName : String := "newField"

def newFieldType : String := "String"

end Model

end SchemaDiagram
