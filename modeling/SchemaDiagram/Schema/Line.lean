/-
# SchemaDiagram.Schema.Line -- the lines of a schema text

A schema holds one statement a line.  A line is trimmed and then sorted by how
it starts: blank lines, comments and the lines that open a generator or a data
source are skipped, `enum ` and `model ` open a block, a closing brace alone
ends one, and everything else is content of the block it stands in.
-/
import SchemaDiagram.Text.Blank
import SchemaDiagram.Text.Search

namespace SchemaDiagram

set_option autoImplicit false

inductive Line.Kind where
  | enumOpen (name : String)
  | modelOpen (name : String)
  | blockClose
  | content
deriving DecidableEq, Repr, Inhabited

structure Line where
  kind : Line.Kind
  /-- The trimmed line. -/
  text : String
  /-- Counted from one. -/
  number : Int
deriving DecidableEq, Repr, Inhabited

namespace Line

def skippedStarts : List String := ["//", "generator", "datasource"]

/-- What an opening line names: the line without its keyword and without its
first brace. -/
def blockName (keyword line : String) : String :=
  Text.stripBlanks (Text.removeFirst "\x7b" (Text.removeFirst keyword line))

/-- How a trimmed line counts; `none` for one that is skipped. -/
def kind? (line : String) : Option Kind :=
  if line = "" || skippedStarts.any (Text.startsWith · line) then none
  else if Text.startsWith "enum " line then some (.enumOpen (blockName "enum " line))
  else if Text.startsWith "model " line then some (.modelOpen (blockName "model " line))
  else if line = "\x7d" then some .blockClose
  else some .content

def ofText? (raw : String) (number : Int) : Option Line :=
  let line := Text.trim raw
  (kind? line).map fun kind => { kind, text := line, number }

/-- The lines from line `number` on, skipped ones left out. -/
def ofLines (number : Int) : List String → List Line
  | [] => []
  | raw :: rest => (ofText? raw number).toList ++ ofLines (number + 1) rest

end Line

/-- The lines of a text, cut at line feeds only. -/
def linesOf (text : String) : List Line :=
  Line.ofLines 1 (Text.pieces '\n' text)

end SchemaDiagram
