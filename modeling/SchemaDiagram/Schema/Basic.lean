/-
# SchemaDiagram.Schema.Basic -- models, enums and the edges between models

A schema declares models, each an ordered list of fields, and enums.  A field
may refer to another model; such references are the relations, and a relation
drawn in the diagram is an edge.

A field's type is kept as written, with its list marker `[]` and optional
marker `?`; `baseType` drops the first of each.
-/
import SchemaDiagram.Text.Search

namespace SchemaDiagram

set_option autoImplicit false

/-! ## Declarations -/

structure Field where
  name : String
  type : String
  /-- The attributes, in the order of the declaration. -/
  modifiers : List String := []
  isRelation : Bool := false
  /-- The model that a relation field refers to. -/
  relationTo : Option String := none
deriving DecidableEq, Repr, Inhabited

structure Model where
  name : String
  fields : List Field := []
deriving DecidableEq, Repr, Inhabited

structure Enumeration where
  name : String
  values : List String := []
deriving DecidableEq, Repr, Inhabited

/-- A type without its first list marker and its first optional marker. -/
def baseTypeOf (type : String) : String :=
  Text.removeFirst "?" (Text.removeFirst "[]" type)

namespace Field

def baseType (f : Field) : String :=
  baseTypeOf f.type

def isList (f : Field) : Bool :=
  Text.contains "[]" f.type

def isOptional (f : Field) : Bool :=
  Text.contains "?" f.type || f.modifiers.contains "?"

end Field

namespace Model

/-- The first field of that name. -/
def field? (m : Model) (name : String) : Option Field :=
  m.fields.find? (·.name == name)

def relationFields (m : Model) : List Field :=
  m.fields.filter (·.isRelation)

end Model

/-! ## Relations -/

inductive Cardinality where
  | oneToOne
  | oneToMany
  | manyToOne
  | manyToMany
deriving DecidableEq, Repr, Inhabited

namespace Cardinality

def all : List Cardinality := [oneToOne, oneToMany, manyToOne, manyToMany]

def name : Cardinality → String
  | oneToOne => "oneToOne"
  | oneToMany => "oneToMany"
  | manyToOne => "manyToOne"
  | manyToMany => "manyToMany"

def ofName? (name : String) : Option Cardinality :=
  all.find? (·.name == name)

theorem ofName?_name (c : Cardinality) : ofName? c.name = some c := by
  cases c <;> decide +kernel

end Cardinality

/-- What the `@relation(…)` annotation of a field says. -/
structure RelationArgs where
  /-- Columns of the model that declares the field. -/
  fields : List String := []
  /-- Columns of the model referred to. -/
  references : List String := []
  onDelete : Option String := none
  onUpdate : Option String := none
deriving DecidableEq, Repr, Inhabited

/-- A reference from a field of one model to another model. -/
structure Relation where
  source : String
  target : String
  sourceField : String
  /-- The field of the target that refers back, as far as it is known. -/
  targetField : Option String := none
  cardinality : Cardinality
  args : RelationArgs := {}
deriving DecidableEq, Repr, Inhabited

namespace Relation

/-- The text that relations of one edge share. -/
def key (r : Relation) : String :=
  r.source ++ "-" ++ r.target ++ "-" ++ r.sourceField

end Relation

/-- A relation as it is drawn. -/
structure Edge extends Relation where
  id : String
  color : String
deriving DecidableEq, Repr, Inhabited

structure Schema where
  models : List Model := []
  edges : List Edge := []
  enums : List Enumeration := []
deriving DecidableEq, Repr, Inhabited

namespace Schema

def modelNames (s : Schema) : List String :=
  s.models.map (·.name)

def enumNames (s : Schema) : List String :=
  s.enums.map (·.name)

/-- The first model of that name. -/
def model? (s : Schema) (name : String) : Option Model :=
  s.models.find? (·.name == name)

/-- The first enum of that name. -/
def enum? (s : Schema) (name : String) : Option Enumeration :=
  s.enums.find? (·.name == name)

def isEmpty (s : Schema) : Bool :=
  s.models.isEmpty && s.enums.isEmpty

end Schema

end SchemaDiagram
