/-
# SchemaDiagram.Diagram.Basic -- a schema as a diagram

A diagram is a schema with a grid to place its models on.  Every change gives a
new diagram.

* Removing a model removes the edges that touch it.
* Replacing a model lets its edges follow a new name, and drops those that leave
  it from a field that is no relation field any more.
* Connecting two fields adds a one-to-one edge, unless there is an edge of the
  same key.
-/
import SchemaDiagram.Diagram.Grid
import SchemaDiagram.Schema.Edge
import SchemaDiagram.Schema.Edit
import SchemaDiagram.Schema.Scan
import SchemaDiagram.Settings.Basic

namespace SchemaDiagram

set_option autoImplicit false

structure Diagram where
  schema : Schema
  grid : Grid := .standard
deriving DecidableEq, Repr, Inhabited

/-! ## Handles -/

def cutEnd (ending s : String) : String :=
  if Text.endsWith ending s then String.ofList (s.toList.take (s.length - ending.length)) else s

/-- The field that a handle belongs to: the handle without its ending; none for
a handle that is missing or empty. -/
def fieldOfHandle (ending : String) : Option String → Option String
  | some handle => if handle = "" then none else some (cutEnd ending handle)
  | none => none

/-! ## Changes -/

/-- The model that a change asks for is not in the diagram. -/
structure UnknownModel where
  name : String
  available : List String
deriving DecidableEq, Repr, Inhabited

def UnknownModel.message (e : UnknownModel) : String :=
  "Model '" ++ e.name ++ "' not found. Available: " ++ Text.join ", " e.available

namespace Schema

def removeModel (s : Schema) (name : String) : Schema where
  models := s.models.filter (·.name != name)
  edges := s.edges.filter fun e => e.source != name && e.target != name
  enums := s.enums

/-- What becomes of an edge when `new` takes the place of the model `name`. -/
def followEdge (name : String) (new : Model) (e : Edge) : Option Edge :=
  let kept := new.relationFields.map (·.name)
  if e.source = name && !kept.contains e.sourceField then none
  else
    some { e with
      source := if e.source = name then new.name else e.source
      target := if e.target = name then new.name else e.target }

def replaceModel (s : Schema) (name : String) (new : Model) : Schema where
  models := s.models.map fun m => if m.name = name then new else m
  edges := s.edges.filterMap (followEdge name new)
  enums := s.enums

def addModel (s : Schema) (m : Model) : Schema :=
  { s with models := s.models ++ [m] }

/-- The relation that a connection stands for. -/
def connection (source : String) (sourceHandle : Option String) (target : String)
    (targetHandle : Option String) : Relation where
  source
  target
  sourceField := (fieldOfHandle "-source" sourceHandle).getD ""
  targetField := fieldOfHandle "-target" targetHandle
  cardinality := .oneToOne

def connect (s : Schema) (source : String) (sourceHandle : Option String) (target : String)
    (targetHandle : Option String) : Except UnknownModel Schema :=
  match [source, target].find? fun name => !s.modelNames.contains name with
  | some name => .error { name, available := Text.ascending s.modelNames }
  | none =>
      let r := connection source sourceHandle target targetHandle
      if s.edges.any (·.key == r.key) then .ok s
      else .ok { s with edges := s.edges ++ [r.edge s.edges.length] }

end Schema

namespace Diagram

/-- The diagram of a schema text. -/
def ofText (text : String) (settings : Settings) : Diagram where
  schema := .ofText text settings.reading.resolveBackFields
  grid := settings.grid

def removeModel (d : Diagram) (name : String) : Diagram :=
  { d with schema := d.schema.removeModel name }

def replaceModel (d : Diagram) (name : String) (new : Model) : Diagram :=
  { d with schema := d.schema.replaceModel name new }

def addModel (d : Diagram) (m : Model) : Diagram :=
  { d with schema := d.schema.addModel m }

def connect (d : Diagram) (source : String) (sourceHandle : Option String) (target : String)
    (targetHandle : Option String) : Except UnknownModel Diagram :=
  (d.schema.connect source sourceHandle target targetHandle).map fun s => { d with schema := s }

end Diagram

end SchemaDiagram
