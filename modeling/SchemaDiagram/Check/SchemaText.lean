/-
# SchemaDiagram.Check.SchemaText -- a first look at a schema text

Before a text is read, three things are checked: that it is not empty, that some
line opens a model, and that braces match in number.  An empty text has no other
finding.
-/
import SchemaDiagram.Check.Report
import SchemaDiagram.Text.Blank
import SchemaDiagram.Text.Search

namespace SchemaDiagram

set_option autoImplicit false

def opensModel (line : String) : Bool :=
  Text.startsWith "model " (Text.trim line)

def noModelFindings (text : String) : List Finding :=
  if (Text.pieces '\n' text).any opensModel then []
  else [{ severity := .error, message := "No models found in schema" }]

def braceFindings (text : String) : List Finding :=
  let opening := Text.count '\x7B' text
  let closing := Text.count '\x7D' text
  if opening = closing then []
  else
    [{ severity := .error
       message := "Mismatched braces in schema"
       context := [("open_braces", .int opening), ("close_braces", .int closing)] }]

def checkSchemaText (text : String) : Report :=
  if Text.trim text = "" then
    .ofFindings [{ severity := .error, message := "Schema content is empty" }]
  else .ofFindings (noModelFindings text ++ braceFindings text)

end SchemaDiagram
