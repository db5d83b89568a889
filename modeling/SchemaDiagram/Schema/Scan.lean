/-
# SchemaDiagram.Schema.Scan -- reading a schema text

One pass over the lines.  At any time a model and an enum may be open, each
independent of the other.  An opening line drops an open block of its kind; a
closing brace ends both; content belongs to the enum if one is open, else to the
model.  A block that is never closed is dropped, but the relations of its fields
are kept.

Nothing is refused: a line that makes no sense has no effect.
-/
import SchemaDiagram.Schema.Line
import SchemaDiagram.Schema.Field
import SchemaDiagram.Schema.Relation
import SchemaDiagram.Schema.Edge

namespace SchemaDiagram

set_option autoImplicit false

structure Scan where
  models : List Model := []
  enums : List Enumeration := []
  relations : List Relation := []
  /-- The model under way, with its fields so far. -/
  openModel : Option Model := none
  /-- The enum under way, with its values so far. -/
  openEnum : Option Enumeration := none
deriving Inhabited

namespace Scan

/-- The relation that a field of `model` adds: one for each relation field that
names a target. -/
def relationOf? (f : Field) (line model : String) : Option Relation :=
  match f.relationTo with
  | some target =>
      if f.isRelation && target != "" then some (.ofField f line model) else none
  | none => none

def addField (s : Scan) (m : Model) (line : String) : Scan :=
  match Field.ofLine? line with
  | none => s
  | some f =>
      { s with
        openModel := some { m with fields := m.fields ++ [f] }
        relations := s.relations ++ (relationOf? f line m.name).toList }

def addContent (s : Scan) (line : String) : Scan :=
  match s.openEnum, s.openModel with
  | some e, _ => { s with openEnum := some { e with values := e.values ++ [line] } }
  | none, some m => s.addField m line
  | none, none => s

def close (s : Scan) : Scan :=
  { s with
    models := s.models ++ s.openModel.toList
    enums := s.enums ++ s.openEnum.toList
    openModel := none
    openEnum := none }

def step (s : Scan) (line : Line) : Scan :=
  match line.kind with
  | .enumOpen name => { s with openEnum := some { name } }
  | .modelOpen name => { s with openModel := some { name } }
  | .blockClose => s.close
  | .content => s.addContent line.text

def run (lines : List Line) : Scan :=
  lines.foldl step {}

/-- The relations of a scan, resolved among its models if asked for. -/
def finalRelations (s : Scan) (resolveBackFields : Bool) : List Relation :=
  if resolveBackFields then s.relations.map (Relation.resolve s.models) else s.relations

end Scan

/-- The schema that a text declares. -/
def Schema.ofText (text : String) (resolveBackFields : Bool) : Schema :=
  let scan := Scan.run (linesOf text)
  { models := scan.models
    edges := Edge.ofRelations (scan.finalRelations resolveBackFields)
    enums := scan.enums }

end SchemaDiagram
