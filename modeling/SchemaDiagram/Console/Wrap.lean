/-
# SchemaDiagram.Console.Wrap -- lines that fit the console

A line is cut into words, each with the blanks behind it.  A word that does not
fit starts a new line; one that fits no line starts a new line too and is cut
where the line is full, or cut off there and ended by three dots.  Blanks at the
end of a line may go beyond its width and are cut there.
-/
import SchemaDiagram.Console.Glyph
import SchemaDiagram.Text.Blank
import SchemaDiagram.Text.Search

namespace SchemaDiagram.Console

set_option autoImplicit false

open Text (isBlank)

def consoleWidth : Nat := 80

/-- What becomes of a word that fits no line. -/
inductive Overflow where
  /-- It goes on in the next line. -/
  | fold
  /-- It is cut off, three dots at its end. -/
  | ellipsis
deriving DecidableEq, Repr

/-! ## Tabs -/

/-- Parts of a line that were parted by tabs, each filled up to the next
multiple of eight columns; a tab is one blank at least. -/
def fillParts (column : Nat) : List (List Char) → List Char
  | [] => []
  | [part] => part
  | part :: rest =>
      let part := part ++ [' ']
      let column := column + cellsOf part
      let fill := (8 - column % 8) % 8
      part ++ List.replicate fill ' ' ++ fillParts (column + fill) rest

def expandTabs (line : List Char) : List Char :=
  fillParts 0 (Text.piecesOf '\t' line)

/-! ## Words -/

/-- A text cut behind the blanks that follow a word. -/
def blankedWords : List Char → List (List Char)
  | [] => []
  | c :: rest =>
      match blankedWords rest with
      | [] => [[c]]
      | head :: more =>
          if isBlank c && !((head.head?.map isBlank).getD true) then [c] :: head :: more
          else (c :: head) :: more

/-- `blankedWords` with blanks at the start of the text counted to its first
word; no words in a text that is all blank. -/
def wordsOfLine (cs : List Char) : List (List Char) :=
  if cs.all isBlank then []
  else
    match blankedWords cs with
    | first :: second :: more =>
        if first.all isBlank then (first ++ second) :: more else first :: second :: more
    | ws => ws

def withoutBlanksBehind (cs : List Char) : List Char :=
  Text.dropTail isBlank cs

/-! ## Lines -/

/-- Lines under way: those that are full, the last one first, and the one being
filled, with the columns it takes. -/
structure Filling where
  full : List (List Char) := []
  line : List Char := []
  used : Nat := 0

namespace Filling

def breakLine (f : Filling) : Filling :=
  if f.full.isEmpty && f.line.isEmpty then f
  else { full := f.line :: f.full, line := [], used := 0 }

def add (f : Filling) (word : List Char) : Filling :=
  { f with line := f.line ++ word, used := f.used + cellsOf word }

/-- Put each part on a line of its own. -/
def addParts (f : Filling) : List (List Char) → Filling
  | [] => f
  | part :: rest => addParts (f.breakLine.add part) rest

def addWord (overflow : Overflow) (width : Nat) (f : Filling) (word : List Char) : Filling :=
  let size := cellsOf (withoutBlanksBehind word)
  if f.used + size ≤ width then f.add word
  else if width < size && overflow == .fold then f.addParts (chop width word)
  else f.breakLine.add word

end Filling

/-- A line without the blanks at its end that are beyond `width`. -/
def cropBlanks (width : Nat) (cs : List Char) : List Char :=
  let excess := cs.length - width
  let blanks := (cs.reverse.takeWhile isBlank).length
  cs.take (cs.length - min excess blanks)

/-- A line cut off where it is full. -/
def truncate (overflow : Overflow) (width : Nat) (line : List Char) : List Char :=
  match overflow with
  | .fold => crop width line
  | .ellipsis => if cellsOf line ≤ width then line else crop (width - 1) line ++ ['…']

/-- The lines that one line is wrapped into, blanks still at their ends. -/
def brokenLine (overflow : Overflow) (width : Nat) (line : List Char) : List (List Char) :=
  let line := if line.contains '\t' then expandTabs line else line
  let filled :=
    match wordsOfLine line with
    | [] => ({ line := line } : Filling)
    | ws => ws.foldl (Filling.addWord overflow width) {}
  (filled.line :: filled.full).reverse.map (cropBlanks width)

/-- The lines that a text is broken into, none of them cut off yet. -/
def brokenLines (overflow : Overflow) (width : Nat) (s : String) : List (List Char) :=
  (Text.piecesOf '\n' s.toList).flatMap (brokenLine overflow width)

/-- The lines that a text is wrapped into. -/
def wrap (width : Nat) (s : String) : List String :=
  (brokenLines .fold width s).map fun line => String.ofList (truncate .fold width line)

/-! ## Natural size -/

/-- Where a text ends a line when it is measured; also controls and separators
that a wrapped line may hold. -/
def endsMeasuredLine (c : Char) : Bool :=
  let n := c.toNat
  (0xA ≤ n && n ≤ 0xD) || (0x1C ≤ n && n ≤ 0x1E) || n == 0x85 || n == 0x2028 || n == 0x2029

/-- The parts of a text between characters of a class. -/
def splitAt (p : Char → Bool) : List Char → List (List Char)
  | [] => [[]]
  | c :: rest =>
      match splitAt p rest with
      | [] => [[c]]
      | head :: more => if p c then [] :: head :: more else (c :: head) :: more

/-- Columns of the longest line of a text; tabs take none. -/
def naturalWidth (s : String) : Nat :=
  ((splitAt endsMeasuredLine s.toList).map cellsOf).foldl max 0

end SchemaDiagram.Console
