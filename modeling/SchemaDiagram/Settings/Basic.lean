/-
# SchemaDiagram.Settings.Basic -- the settings of a project

Settings are kept in sections.  `toMembers` writes all of them; `ofMembers` lays
a partial set over the defaults and reads the result, so what is not given has
its default and what is not known is left out.
-/
import SchemaDiagram.Data.Checked
import SchemaDiagram.Diagram.Grid
import SchemaDiagram.Schema.Printer

namespace SchemaDiagram

set_option autoImplicit false

structure Reading where
  /-- Look up the fields that refer back instead of guessing them. -/
  resolveBackFields : Bool := false
  /-- Check a text before it is read. -/
  validateFirst : Bool := true
deriving DecidableEq, Repr, Inhabited

structure Settings where
  name : String := "prisma-graph"
  preamble : Preamble := {}
  reading : Reading := {}
  grid : Grid := .standard
deriving DecidableEq, Repr, Inhabited

/-! ## Writing -/

def Preamble.toMembers (p : Preamble) : Members :=
  [("generator_name", .text p.generatorName),
    ("generator_provider", .text p.generatorProvider),
    ("datasource_name", .text p.datasourceName),
    ("datasource_provider", .text p.datasourceProvider),
    ("url_env", .text p.urlEnv)]

def Reading.toMembers (r : Reading) : Members :=
  [("resolve_reverse_fields", .bool r.resolveBackFields),
    ("validate_first", .bool r.validateFirst)]

def Grid.toMembers (g : Grid) : Members :=
  [("columns", .int g.columns),
    ("column_width", .int g.columnWidth),
    ("row_height", .int g.rowHeight),
    ("margin", .int g.margin)]

def Settings.toMembers (s : Settings) : Members :=
  [("name", .text s.name),
    ("emitter", .object s.preamble.toMembers),
    ("parser", .object s.reading.toMembers),
    ("layout", .object s.grid.toMembers)]

/-! ## Reading -/

open Checked

def Preamble.ofMembers (m : Members) : Checked Preamble :=
  let d : Preamble := {}
  apply (apply (apply (apply (apply (.ok Preamble.mk)
    (member "generator_name" text d.generatorName m))
    (member "generator_provider" text d.generatorProvider m))
    (member "datasource_name" text d.datasourceName m))
    (member "datasource_provider" text d.datasourceProvider m))
    (member "url_env" text d.urlEnv m)

def Reading.ofMembers (m : Members) : Checked Reading :=
  let d : Reading := {}
  apply (apply (.ok Reading.mk)
    (member "resolve_reverse_fields" boolean d.resolveBackFields m))
    (member "validate_first" boolean d.validateFirst m)

/-- A grid with these measures. -/
def Grid.ofMeasures (columns : { n : Nat // 1 ≤ n })
    (columnWidth rowHeight margin : { n : Nat // 0 ≤ n }) : Grid where
  columns := columns.val
  columnWidth := columnWidth.val
  rowHeight := rowHeight.val
  margin := margin.val
  columns_pos := columns.property

def Grid.ofMembers (m : Members) : Checked Grid :=
  let d := Grid.standard
  apply (apply (apply (apply (.ok Grid.ofMeasures)
    (member "columns" (atLeast 1) ⟨d.columns, d.columns_pos⟩ m))
    (member "column_width" (atLeast 0) ⟨d.columnWidth, Nat.zero_le _⟩ m))
    (member "row_height" (atLeast 0) ⟨d.rowHeight, Nat.zero_le _⟩ m))
    (member "margin" (atLeast 0) ⟨d.margin, Nat.zero_le _⟩ m)

namespace Settings

/-- Settings out of a set that may lack members. -/
def read (m : Members) : Checked Settings :=
  let d : Settings := {}
  apply (apply (apply (apply (.ok Settings.mk)
    (member "name" text d.name m))
    (member "emitter" (section_ "EmitterConfig" Preamble.ofMembers) d.preamble m))
    (member "parser" (section_ "ParserConfig" Reading.ofMembers) d.reading m))
    (member "layout" (section_ "LayoutConfig" Grid.ofMembers) d.grid m)

/-- The settings that `data` gives over the defaults. -/
def ofMembers (data : Members) : Checked Settings :=
  read (Value.overlayMembers (toMembers {}) data)

end Settings

end SchemaDiagram
