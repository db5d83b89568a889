/-
# SchemaDiagram.Diagram.Grid -- where the nodes of a diagram stand

Nodes fill a grid row by row.  Positions are defined for all integers: those
before the first node continue the grid upwards.
-/

namespace SchemaDiagram

set_option autoImplicit false

structure Grid where
  columns : Nat := 4
  columnWidth : Nat := 350
  rowHeight : Nat := 300
  /-- The distance of the first node from the upper and the left edge. -/
  margin : Nat := 100
  columns_pos : 0 < columns := by decide
deriving DecidableEq, Repr

/-- The grid that is used where none is asked for. -/
def Grid.standard : Grid := {}

instance : Inhabited Grid := ⟨.standard⟩

structure Position where
  x : Int
  y : Int
deriving DecidableEq, Repr, Inhabited

namespace Grid

/-- Division rounds down, so the column is never negative. -/
def position (g : Grid) (index : Int) : Position where
  x := index % g.columns * g.columnWidth + g.margin
  y := index / g.columns * g.rowHeight + g.margin

/-- The positions of the first nodes, none for a negative count. -/
def positions (g : Grid) (count : Int) : List Position :=
  (List.range count.toNat).map fun (i : Nat) => g.position i

end Grid

end SchemaDiagram
