/-
# SchemaDiagram.CommandLine.Overview -- a schema in tables

One table for the models, one for the enums and one for the relations that are
drawn.  The latter two are left out where they would have no rows.
-/
import SchemaDiagram.Console.Frame
import SchemaDiagram.Schema.Basic
import SchemaDiagram.Text.Digits

namespace SchemaDiagram.CommandLine

set_option autoImplicit false

open Text (join)
open Console (Column Table)

/-- Names in a row, a hyphen for none. -/
def listed (names : List String) : String :=
  let text := join ", " names
  if text = "" then "-" else text

/-! ## Models -/

def shownRelation (f : Field) : String :=
  f.name ++ " -> " ++ f.relationTo.getD "None"

def modelRow (m : Model) : List String :=
  [m.name, Text.decimal m.fields.length, listed (m.relationFields.map shownRelation)]

def modelsTable (s : Schema) : Table where
  title := "Models"
  columns :=
    [{ heading := "Name" }, { heading := "Fields", align := .right }, { heading := "Relations" }]
  rows := s.models.map modelRow

/-! ## Enums -/

def enumRow (e : Enumeration) : List String :=
  [e.name, join ", " e.values]

def enumsTable (s : Schema) : Table where
  title := "Enums"
  columns := [{ heading := "Name" }, { heading := "Values" }]
  rows := s.enums.map enumRow

/-! ## Relations -/

/-- The end of an edge, with the field if it has a name. -/
def shownTarget (e : Edge) : String :=
  match e.targetField with
  | none | some "" => e.target
  | some field => e.target ++ "." ++ field

def edgeRow (e : Edge) : List String :=
  [e.source ++ "." ++ e.sourceField, shownTarget e, e.cardinality.name, listed e.args.fields,
    listed e.args.references]

def edgesTable (s : Schema) : Table where
  title := "Relations"
  columns := ["Source", "Target", "Type", "Fields", "References"].map fun heading => { heading }
  rows := s.edges.map edgeRow

def overview (s : Schema) : List Table :=
  modelsTable s :: (if s.enums.isEmpty then [] else [enumsTable s]) ++
    (if s.edges.isEmpty then [] else [edgesTable s])

end SchemaDiagram.CommandLine
