/-
# SchemaDiagram.Check.DocumentShape -- the shape of a diagram document

A document has nodes, one for each model, and may have edges and enums.
-/
import SchemaDiagram.Check.Report
import SchemaDiagram.Check.Shape
import SchemaDiagram.Schema.Basic

namespace SchemaDiagram

set_option autoImplicit false

namespace Shape

def field : Shape :=
  .record ["name", "type"]
    [("name", .text),
      ("type", .text),
      ("modifiers", .listOf .text),
      ("isRelation", .flag),
      ("relationTo", .textOrNull)]

def node : Shape :=
  .record ["id", "data"]
    [("id", .text),
      ("data", .record ["name", "fields"] [("name", .text), ("fields", .listOf field)])]

def relationDetails : Shape :=
  .record []
    [("fields", .listOf .text),
      ("references", .listOf .text),
      ("onDelete", .textOrNull),
      ("onUpdate", .textOrNull)]

def edge : Shape :=
  .record ["id", "source", "target"]
    [("id", .text),
      ("source", .text),
      ("target", .text),
      ("sourceHandle", .textOrNull),
      ("targetHandle", .textOrNull),
      ("data", .record []
        [("sourceField", .text),
          ("targetField", .textOrNull),
          ("relationType", .oneOf (Cardinality.all.map (·.name))),
          ("relationDetails", relationDetails)]),
      ("style", .record [] [("stroke", .text), ("strokeWidth", .number)])]

def enumeration : Shape :=
  .record ["name", "values"] [("name", .text), ("values", .listOf .text)]

def document : Shape :=
  .record ["nodes"]
    [("nodes", .listOf node), ("edges", .listOf edge), ("enums", .listOf enumeration)]

end Shape

def Violation.finding (v : Violation) : Finding where
  severity := .error
  message := "Graph document validation failed: " ++ v.message
  path := Text.join "." (v.path.map (·.text))
  context := [("schema_path", .ofTexts v.rule)]

/-- The report on a document: it has at most one finding. -/
def checkDocument (document : Value) : Report :=
  .ofFindings ((Violation.chosen? (Shape.document.violations document)).map (·.finding)).toList

end SchemaDiagram
