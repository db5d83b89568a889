/-
# SchemaDiagram.Schema.Edge -- one edge for relations of one key

Of relations with the same key the first becomes an edge.  Its number and its
colour are those of its place among all relations, so a dropped relation leaves
a gap.  Handles name the points at which the edge meets the two models.
-/
import SchemaDiagram.Schema.Basic
import SchemaDiagram.Text.Digits

namespace SchemaDiagram

set_option autoImplicit false

def palette : List String := ["#6366f1", "#8b5cf6", "#ec4899", "#10b981", "#f59e0b"]

/-- The colours in turn. -/
def strokeColor (index : Nat) : String :=
  palette.get ⟨index % palette.length, Nat.mod_lt _ (by decide)⟩

namespace Relation

/-- The relation as the edge of that number. -/
def edge (r : Relation) (index : Nat) : Edge :=
  { r with
    id := r.key ++ "-" ++ Text.decimal index
    color := strokeColor index }

end Relation

namespace Edge

def sourceHandle (e : Edge) : String :=
  e.sourceField ++ "-source"

/-- There is none for an edge that ends at no field. -/
def targetHandle (e : Edge) : Option String :=
  match e.targetField with
  | some name => if name = "" then none else some (name ++ "-target")
  | none => none

/-- The edges of the relations from number `index` on, without those whose key
is among `drawn`. -/
def ofRelationsFrom (drawn : List String) (index : Nat) : List Relation → List Edge
  | [] => []
  | r :: rest =>
      if drawn.contains r.key then ofRelationsFrom drawn (index + 1) rest
      else r.edge index :: ofRelationsFrom (r.key :: drawn) (index + 1) rest

def ofRelations (relations : List Relation) : List Edge :=
  ofRelationsFrom [] 0 relations

end Edge

end SchemaDiagram
