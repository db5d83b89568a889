/-
# SchemaDiagram.Console.Frame -- tables and panels

A table has a title over it, a heavy rule around its headings and a light one
around its rows.  Each column is as wide as its widest cell, unless the table
would not fit the console: then the widest columns are made narrower first.  A
panel is a box as wide as its longest line, with its title in the upper rule.
-/
import SchemaDiagram.Console.Wrap

namespace SchemaDiagram.Console

set_option autoImplicit false

open Text (join)

def repeated (n : Nat) (c : Char) : String :=
  String.ofList (List.replicate n c)

inductive Align where
  | left
  | right
  | center
deriving DecidableEq, Repr

/-- A text filled up to `width` columns; in the middle the left part is the
smaller one. -/
def fill (align : Align) (c : Char) (width : Nat) (s : String) : String :=
  let free := width - widthOf s
  match align with
  | .left => s ++ repeated free c
  | .right => repeated free c ++ s
  | .center => repeated (free / 2) c ++ s ++ repeated (free - free / 2) c

/-- The lines of a text in a space of `width` columns, filled up. -/
def block (overflow : Overflow) (align : Align) (width : Nat) (s : String) : List String :=
  (brokenLines overflow width s).map fun line =>
    let line := if align = .left then line else withoutBlanksBehind line
    fill align ' ' width (String.ofList (truncate overflow width line))

/-! ## Narrowing -/

/-- `total / count` rounded to the nearest natural number, ties to even. -/
def evenShare (total count : Nat) : Nat :=
  let low := total / count
  let twice := 2 * (total % count)
  if twice < count then low
  else if count < twice then low + 1
  else low + low % 2

/-- Take `total` columns away from those of `widths` that are marked, in equal
shares of at most `most` columns. -/
def takeAway (total count : Nat) : List (Nat × Bool × Nat) → List Nat
  | [] => []
  | (w, false, _) :: rest => w :: takeAway total count rest
  | (w, true, most) :: rest =>
      let share := min most (evenShare total count)
      (w - share) :: takeAway (total - share) (count - 1) rest

def total (widths : List Nat) : Nat :=
  widths.foldl (· + ·) 0

def widest (widths : List Nat) : Nat :=
  widths.foldl max 0

/-- Make the widest of `widths` as narrow as the next ones, until `room` holds
them or all are equal. -/
def narrowWidest (room : Nat) : Nat → List Nat → List Nat
  | 0, widths => widths
  | fuel + 1, widths =>
      let excess := total widths - room
      let high := widest widths
      let gap := high - widest (widths.filter (· != high))
      if excess = 0 || gap = 0 then widths
      else
        let marked := widths.map fun w => (w, w == high, min excess gap)
        narrowWidest room fuel (takeAway excess (widths.count high) marked)

/-- Widths that `room` holds. -/
def narrow (room : Nat) (widths : List Nat) : List Nat :=
  if total widths ≤ room then widths
  else
    let widths := narrowWidest room (total widths) widths
    let excess := total widths - room
    if excess = 0 then widths
    else takeAway excess widths.length (widths.map fun w => (w, true, w))

/-! ## Tables -/

structure Column where
  heading : String
  align : Align := .left

structure Table where
  title : String
  columns : List Column
  rows : List (List String)

namespace Table

/-- The greatest widths of cells, column by column. -/
def widen : List Nat → List String → List Nat
  | w :: ws, cell :: cells => max w (naturalWidth cell) :: widen ws cells
  | ws, _ => ws

def naturalWidths (t : Table) : List Nat :=
  t.rows.foldl widen (t.columns.map fun c => naturalWidth c.heading)

/-- The widths of the columns, a blank on either side counted.  No column is wider
than what the rules leave of the console. -/
def widths (t : Table) : List Nat :=
  let room := consoleWidth - (t.columns.length + 1)
  narrow room (t.naturalWidths.map fun w => min room (w + 2))

/-- A rule with an end, crossings and another end. -/
def rule (left line crossing right : Char) (widths : List Nat) : String :=
  let parts := widths.map fun w => repeated w line
  String.ofList [left] ++ join (String.ofList [crossing]) parts ++ String.ofList [right]

/-- The line of number `i` of a row whose cells have several. -/
def rowLine (bar : Char) (widths : List Nat) (cells : List (List String)) (i : Nat) : String :=
  let edge := String.ofList [bar]
  let part : Nat × List String → String
    | (width, lines) => " " ++ lines.getD i (repeated (width - 2) ' ') ++ " "
  edge ++ join edge ((widths.zip cells).map part) ++ edge

/-- The lines of a row, as many as its highest cell has. -/
def row (bar : Char) (columns : List Column) (widths : List Nat) (cells : List String) :
    List String :=
  let blocks := (columns.zip (widths.zip cells)).map fun (column, width, cell) =>
    block .ellipsis column.align (width - 2) cell
  let height := widest (blocks.map (·.length))
  (List.range height).map (rowLine bar widths blocks)

def lines (t : Table) : List String :=
  let ws := t.widths
  block .fold .center (total ws + ws.length + 1) t.title ++
    [rule '┏' '━' '┳' '┓' ws] ++
    row '┃' t.columns ws (t.columns.map (·.heading)) ++
    [rule '┡' '━' '╇' '┩' ws] ++
    t.rows.flatMap (row '│' t.columns ws) ++
    [rule '└' '─' '┴' '┘' ws]

end Table

/-! ## Panels -/

/-- The lines of a panel around `text`. -/
def panel (title text : String) : List String :=
  let caption := " " ++ title ++ " "
  let inner := min (consoleWidth - 2) (max (naturalWidth text + 2) (widthOf caption + 2))
  let body := (wrap (inner - 2) text).map fun line =>
    "│ " ++ fill .left ' ' (inner - 2) line ++ " │"
  ["╭─" ++ fill .center '─' (inner - 2) caption ++ "─╮"] ++ body ++
    ["╰" ++ repeated inner '─' ++ "╯"]

end SchemaDiagram.Console
