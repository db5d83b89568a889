/-
# SchemaDiagram.Schema.Printer -- schema text of models and enums

A schema text starts with the preamble, the generator and the data source.  Then
come the enums and then the models, a blank line between two blocks.  Names,
types, attributes and enum values are written as they are.
-/
import SchemaDiagram.Schema.Basic

namespace SchemaDiagram

set_option autoImplicit false

open Text (join)

/-- The names that the preamble is filled with. -/
structure Preamble where
  generatorName : String := "client"
  generatorProvider : String := "prisma-client-js"
  datasourceName : String := "db"
  datasourceProvider : String := "postgresql"
  urlEnv : String := "DATABASE_URL"
deriving DecidableEq, Repr, Inhabited

/-- A block with an indented line for each of `lines`. -/
def renderBlock (keyword name : String) (lines : List String) : String :=
  keyword ++ " " ++ name ++ " \x7b\n" ++ join "\n" (lines.map ("  " ++ ·)) ++ "\n\x7d"

def Preamble.render (p : Preamble) : String :=
  renderBlock "generator" p.generatorName ["provider = \"" ++ p.generatorProvider ++ "\""] ++
    "\n\n" ++
    renderBlock "datasource" p.datasourceName
      ["provider = \"" ++ p.datasourceProvider ++ "\"",
        "url      = env(\"" ++ p.urlEnv ++ "\")"] ++
    "\n\n"

def Field.render (f : Field) : String :=
  join " " (f.name :: f.type :: f.modifiers)

def Model.render (m : Model) : String :=
  renderBlock "model" m.name (m.fields.map (·.render))

def Enumeration.render (e : Enumeration) : String :=
  renderBlock "enum" e.name e.values

/-- The text of the whole schema.  It has no line end after the last model, and
two after the last enum. -/
def renderSchema (preamble : Preamble) (models : List Model) (enums : List Enumeration) :
    String :=
  let enumText := join "\n\n" (enums.map (·.render))
  preamble.render ++ (if enumText = "" then "" else enumText ++ "\n\n") ++
    join "\n\n" (models.map (·.render))

def Schema.render (preamble : Preamble) (s : Schema) : String :=
  renderSchema preamble s.models s.enums

end SchemaDiagram
