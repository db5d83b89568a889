/-
# SchemaDiagram.Proofs.Diagram.Grid -- nodes on a grid stand apart and in order

The row of an index is its quotient by the number of columns, and its column is the
remainder, for the indices before the first node too.  Where rows and columns have an
extent, a position tells both (`indexAt_position`), so no two indices have one position,
and a later index stands further down, or further right in the same row
(`precedes_of_lt`).

The nodes of a document stand at the positions of their numbers, so no two of them
share a place (`positions_in_order`).
-/
import SchemaDiagram.Proofs.Diagram.Written
import Mathlib.Data.List.Nodup

namespace SchemaDiagram

set_option autoImplicit false

/-- Whether `p` comes before `q` where a grid is read row by row. -/
def Position.Precedes (p q : Position) : Prop :=
  p.y < q.y ∨ p.y = q.y ∧ p.x < q.x

/-- The places of the nodes of a document. -/
def Value.nodePlaces (document : Value) : List (Option Value) :=
  (asItems (document.get? "nodes")).map (·.get? "position")

theorem Position.toValue_inj {p q : Position} : p.toValue = q.toValue ↔ p = q := by
  refine ⟨fun same => ?_, congrArg _⟩
  cases p
  cases q
  simpa [toValue, Value.int] using same

namespace Grid

variable {g : Grid} {i j : Int}

/-- Neighbours in a row and neighbours in a column have a distance. -/
structure Spreads (g : Grid) : Prop where
  across : 0 < g.columnWidth
  down : 0 < g.rowHeight

/-- The index of the node that stands at a position. -/
def indexAt (g : Grid) (p : Position) : Int :=
  (p.y - g.margin) / g.rowHeight * g.columns + (p.x - g.margin) / g.columnWidth

/-! ## Positions of indices -/

/-- **A position tells its index**: the margin taken off, each coordinate is a multiple
of its spacing. -/
theorem indexAt_position (spreads : g.Spreads) (i : Int) : g.indexAt (g.position i) = i := by
  have across : (g.columnWidth : Int) ≠ 0 := Int.natCast_ne_zero.2 (Nat.ne_of_gt spreads.across)
  have down : (g.rowHeight : Int) ≠ 0 := Int.natCast_ne_zero.2 (Nat.ne_of_gt spreads.down)
  calc g.indexAt (g.position i)
      = i / g.columns * g.rowHeight / g.rowHeight * g.columns +
          i % g.columns * g.columnWidth / g.columnWidth := by
        simp only [indexAt, position, Int.add_sub_cancel]
    _ = i / g.columns * g.columns + i % g.columns := by
        rw [Int.mul_ediv_cancel _ down, Int.mul_ediv_cancel _ across]
    _ = i := Int.ediv_mul_add_emod i g.columns

theorem position_injective (spreads : g.Spreads) : Function.Injective g.position :=
  Function.LeftInverse.injective (indexAt_position spreads)

/-- **A later index stands later**: in a later row, or in the same row further right. -/
theorem precedes_of_lt (spreads : g.Spreads) (later : i < j) :
    (g.position i).Precedes (g.position j) := by
  have columns : (0 : Int) < g.columns := Int.natCast_pos.2 g.columns_pos
  have across : (0 : Int) < g.columnWidth := Int.natCast_pos.2 spreads.across
  have down : (0 : Int) < g.rowHeight := Int.natCast_pos.2 spreads.down
  rcases Int.lt_or_eq_of_le (Int.ediv_le_ediv columns (Int.le_of_lt later)) with lower | level
  · left
    exact Int.add_lt_add_right (Int.mul_lt_mul_of_pos_right lower down) _
  · right
    have further : i % g.columns < j % g.columns := by
      have first := Int.ediv_mul_add_emod i g.columns
      have second := Int.ediv_mul_add_emod j g.columns
      rw [level] at first
      omega
    refine ⟨?_, Int.add_lt_add_right (Int.mul_lt_mul_of_pos_right further across) _⟩
    simp only [position, level]

/-! ## Places of nodes -/

/-- The nodes take the positions of their numbers. -/
theorem places_nodesFrom (g : Grid) (models : List Model) (index : Nat) :
    (g.nodesFrom index models).map (·.get? "position") =
      (List.range' index models.length).map fun n : Nat => some (g.position n).toValue := by
  induction models generalizing index with
  | nil => rfl
  | cons m rest ih =>
      rw [nodesFrom, List.map_cons, ih, List.length_cons, List.range'_succ, List.map_cons]
      rfl

theorem nodePlaces_toDocument (d : Diagram) :
    d.toDocument.nodePlaces =
      (List.range' 0 d.schema.models.length).map fun n : Nat => some (d.grid.position n).toValue :=
  places_nodesFrom d.grid d.schema.models 0

/-- **Nodes stand apart and in order** on a grid whose rows and columns have an extent:
positions follow the order of all indices and tell them, and no two nodes of a document
share a place. -/
theorem positions_in_order {g : Grid} (spreads : g.Spreads) :
    (∀ i j : Int, i < j → (g.position i).Precedes (g.position j)) ∧
      (∀ i : Int, g.indexAt (g.position i) = i) ∧
      ∀ s : Schema, (Diagram.toDocument { schema := s, grid := g }).nodePlaces.Nodup := by
  refine ⟨fun i j => precedes_of_lt spreads, indexAt_position spreads, fun s => ?_⟩
  rw [nodePlaces_toDocument]
  refine List.Nodup.map (fun m n same => ?_) List.nodup_range'
  have place := Position.toValue_inj.1 (Option.some.inj same)
  exact Int.natCast_inj.1 (position_injective spreads place)

/-- On a grid of two columns, the node before the first stands at the right end of the
row above it. -/
theorem positions_in_order_two_columns :
    let g : Grid := { columns := 2, columnWidth := 10, rowHeight := 5, margin := 3 }
    (0 < g.columnWidth ∧ 0 < g.rowHeight) ∧
      g.position (-1) = { x := 13, y := -2 } ∧ g.position 0 = { x := 3, y := 3 } ∧
      (∀ i j : Int, i < j → (g.position i).Precedes (g.position j)) ∧
      (∀ i : Int, g.indexAt (g.position i) = i) ∧
      ∀ s : Schema, (Diagram.toDocument { schema := s, grid := g }).nodePlaces.Nodup :=
  ⟨by decide, by decide, by decide, positions_in_order ⟨by decide, by decide⟩⟩

end Grid

end SchemaDiagram
