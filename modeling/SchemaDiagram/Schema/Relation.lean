/-
# SchemaDiagram.Schema.Relation -- the relation that a field stands for

The list side of a relation is its many side.  A field with an annotation owns
the relation: it is many-to-one, or one-to-one if the field is optional.  A bare
field of model type is one-to-one.

Which field of the target refers back is first guessed from names
(`guessedBackField`); `resolve` looks it up among the models instead, and keeps
the guess where there is none.
-/
import SchemaDiagram.Schema.RelationArgs
import SchemaDiagram.Text.Case

namespace SchemaDiagram

set_option autoImplicit false

def Cardinality.ofField (f : Field) (line : String) : Cardinality :=
  if f.isList then .oneToMany
  else if Text.contains "@relation" line then
    if f.isOptional then .oneToOne else .manyToOne
  else .oneToOne

namespace Relation

/-- A list field is referred back to under the name of its model, a field that
names referenced columns under the plural of it. -/
def guessedBackField (f : Field) (model : String) (args : RelationArgs) : Option String :=
  if f.isList then some (Text.lower model)
  else if args.references.isEmpty then none
  else some (Text.lower model ++ "s")

/-- The relation of a field of `model` that is declared by `line`. -/
def ofField (f : Field) (line model : String) : Relation :=
  let args := RelationArgs.ofLine line
  { source := model
    target :=
      match f.relationTo with
      | some name => if name = "" then f.baseType else name
      | none => f.baseType
    sourceField := f.name
    targetField := guessedBackField f model args
    cardinality := .ofField f line
    args }

/-! ## Looking up the field that refers back -/

/-- Whether a relation field of the target refers back along `r`.  A field of
the source itself does not count as its own counterpart. -/
def refersBack (r : Relation) (m : Model) (f : Field) : Bool :=
  f.relationTo == some r.source && !(m.name == r.source && f.name == r.sourceField)

/-- The first field that refers back, of the models named as the target. -/
def backField? (r : Relation) (models : List Model) : Option String :=
  (models.filter (·.name == r.target)).findSome? fun m =>
    (m.relationFields.find? (r.refersBack m)).map (·.name)

def resolve (models : List Model) (r : Relation) : Relation :=
  { r with targetField := (r.backField? models).or r.targetField }

end Relation

end SchemaDiagram
