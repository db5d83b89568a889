/-
# SchemaDiagram.Check.Consistency -- what a schema leaves open

A schema can be read although it has no model, two models or two enums of one
name, or a relation field that refers to no model or enum.  Each of these is a
warning; a schema without them has no findings.
-/
import SchemaDiagram.Check.Report
import SchemaDiagram.Schema.Basic
import SchemaDiagram.Text.Digits

namespace SchemaDiagram

set_option autoImplicit false

/-- The names that occur, each once, in the order of first occurrence. -/
def distinct : List String → List String
  | [] => []
  | name :: rest => name :: (distinct rest).filter (· != name)

/-- One finding for each name that occurs more than once. -/
def duplicateFindings (what section_ : String) (names : List String) : List Finding :=
  (distinct names).filterMap fun name =>
    let times := names.count name
    if 1 < times then
      some
        { severity := .warning
          message := "Duplicate " ++ what ++ " name: " ++ name
          path := section_ ++ "." ++ name
          context := [("count", .int times)] }
    else none

def unknownTarget (m : Model) (f : Field) : Finding where
  severity := .warning
  message :=
    "Unknown relation target: " ++ m.name ++ "." ++ f.name ++ " -> " ++ f.relationTo.getD "None"
  path := "models." ++ m.name ++ "." ++ f.name

namespace Schema

/-- Whether a relation field refers to a model or an enum of the schema. -/
def knowsTarget (s : Schema) (f : Field) : Bool :=
  match f.relationTo with
  | some name => s.modelNames.contains name || s.enumNames.contains name
  | none => false

def targetFindings (s : Schema) : List Finding :=
  s.models.flatMap fun m =>
    (m.relationFields.filter fun f => !s.knowsTarget f).map (unknownTarget m)

def emptyFindings (s : Schema) : List Finding :=
  if s.models.isEmpty then
    [{ severity := .warning, message := "No models were extracted", path := "models" }]
  else []

def check (s : Schema) : Report :=
  .ofFindings (
    s.emptyFindings ++
    duplicateFindings "model" "models" s.modelNames ++
    duplicateFindings "enum" "enums" s.enumNames ++
    s.targetFindings)

end Schema

end SchemaDiagram
