/-
# SchemaDiagram.Yaml.Cursor -- a place in a YAML text

A cursor knows the text ahead of it, and the line and the column it stands in;
indentation is told by columns.  A byte-order mark takes no column.
-/

namespace SchemaDiagram.Yaml

set_option autoImplicit false

/-! ## Characters -/

def isBreak (c : Char) : Bool :=
  c == '\n' || c == '\r' || c == '\u0085' || c == '\u2028' || c == '\u2029'

def isGap (c : Char) : Bool :=
  c == ' ' || c == '\t' || isBreak c

/-- The end of the text counts as a break. -/
def endsLine : Option Char → Bool
  | some c => isBreak c
  | none => true

/-- The end of the text counts as a gap. -/
def endsWord : Option Char → Bool
  | some c => isGap c
  | none => true

/-- What may occur in a YAML text. -/
def isAllowed (c : Char) : Bool :=
  let n := c.toNat
  n == 0x9 || n == 0xA || n == 0xD || (0x20 ≤ n && n ≤ 0x7E) || n == 0x85 ||
    (0xA0 ≤ n && n ≤ 0xD7FF) || (0xE000 ≤ n && n ≤ 0xFFFD) || 0x10000 ≤ n

/-! ## Cursors -/

structure Cursor where
  rest : List Char
  /-- The length of the whole text. -/
  size : Nat
  line : Nat := 0
  column : Nat := 0
  index : Nat := 0
deriving Inhabited

namespace Cursor

def start (cs : List Char) : Cursor where
  rest := cs
  size := cs.length

/-- The number of characters ahead. -/
def left (c : Cursor) : Nat :=
  c.size - c.index

def peek (c : Cursor) : Option Char :=
  c.rest.head?

def peekAt (c : Cursor) (n : Nat) : Option Char :=
  c.rest[n]?

/-- A carriage return before a line feed does not end the line by itself. -/
def passes (ch : Char) (rest : List Char) : Bool :=
  if ch = '\r' then rest.head? != some '\n' else isBreak ch

def forward (c : Cursor) : Cursor :=
  match c.rest with
  | [] => c
  | ch :: rest =>
      let index := c.index + 1
      if passes ch rest then { c with rest, line := c.line + 1, column := 0, index }
      else
        let column := if ch = '\uFEFF' then c.column else c.column + 1
        { c with rest, column, index }

def forwardBy : Nat → Cursor → Cursor
  | 0, c => c
  | n + 1, c => forwardBy n c.forward

/-- Skip the characters of a class. -/
def skip (p : Char → Bool) (c : Cursor) : Cursor :=
  c.forwardBy (c.rest.takeWhile p).length

/-- Skip blanks, but not beyond a column. -/
def skipBlanksTo (column : Nat) (c : Cursor) : Cursor :=
  c.forwardBy (min (c.rest.takeWhile (· == ' ')).length (column - c.column))

/-- The break that the cursor stands at, as it counts in a text, and the cursor
behind it. -/
def lineBreak? (c : Cursor) : Option (Char × Cursor) :=
  match c.rest with
  | '\r' :: '\n' :: _ => some ('\n', c.forwardBy 2)
  | ch :: _ =>
      if ch = '\r' || ch = '\n' || ch = '\u0085' then some ('\n', c.forward)
      else if isBreak ch then some (ch, c.forward)
      else none
  | [] => none

/-- Whether the three characters ahead are `mark` and a gap follows them. -/
def atMark (mark : Char) (c : Cursor) : Bool :=
  match c.rest with
  | a :: b :: d :: rest => a == mark && b == mark && d == mark && endsWord rest.head?
  | _ => false

/-- Whether a document starts or ends here. -/
def atDocumentMark (c : Cursor) : Bool :=
  c.atMark '-' || c.atMark '.'

/-- The rest of the line is skipped. -/
def toLineEnd (c : Cursor) : Cursor :=
  c.skip fun ch => !isBreak ch

end Cursor

end SchemaDiagram.Yaml
