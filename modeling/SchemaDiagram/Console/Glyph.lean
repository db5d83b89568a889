/-
# SchemaDiagram.Console.Glyph -- characters that are shown as one

A zero-width joiner takes the character behind it into the glyph before, and a
picture mark makes some narrow characters wide.  Characters without a width
belong to the glyph before them.  Texts are measured, cut and fitted by glyphs.
-/
import SchemaDiagram.Text.CellWidth

namespace SchemaDiagram.Console

set_option autoImplicit false

open Text (cellWidth widensAsPicture)

def joiner : Char := '\u200D'

def pictureMark : Char := '\uFE0F'

/-! ## Measuring -/

/-- Columns of a text behind the measured character `last`. -/
def cellsAfter (last : Option Char) : List Char → Nat
  | [] => 0
  | c :: rest =>
      if c = joiner then
        match rest with
        | _ :: rest => cellsAfter last rest
        | [] => 0
      else if c = pictureMark then
        (if last.any widensAsPicture then 1 else 0) + cellsAfter none rest
      else if cellWidth c = 0 then cellsAfter last rest
      else cellWidth c + cellsAfter (some c) rest

/-- Columns of a text. -/
def cellsOf (cs : List Char) : Nat :=
  cellsAfter none cs

def widthOf (s : String) : Nat :=
  cellsOf s.toList

/-! ## Glyphs -/

structure Glyph where
  chars : List Char
  width : Nat
deriving DecidableEq, Repr

namespace Glyph

def alone (c : Char) (width : Nat) : Glyph where
  chars := [c]
  width

def add (g : Glyph) (cs : List Char) (width : Nat) : Glyph where
  chars := g.chars ++ cs
  width := g.width + width

/-- The glyphs of a text behind those in `done`, the last one first; `last` is
the character that was measured last. -/
def after (done : List Glyph) (last : Option Char) : List Char → List Glyph
  | [] => done.reverse
  | c :: rest =>
      match done with
      | [] =>
          let measured := if c = joiner || c = pictureMark then 0 else cellWidth c
          after [.alone c measured] (if measured = 0 then last else some c) rest
      | g :: more =>
          if c = joiner then
            match rest with
            | [] => (g.add [c] 0 :: more).reverse
            | next :: rest => after (g.add [c, next] 0 :: more) last rest
          else if c = pictureMark then
            if last.any widensAsPicture then after (g.add [c] 1 :: more) none rest
            else after (g.add [c] 0 :: more) last rest
          else if cellWidth c = 0 then after (g.add [c] 0 :: more) last rest
          else after (.alone c (cellWidth c) :: g :: more) (some c) rest

def ofChars (cs : List Char) : List Glyph :=
  after [] none cs

/-! ## Cutting -/

/-- Glyphs cut into parts of at most `width` columns; `part` is under way and
takes `used` columns. -/
def chopFrom (width : Nat) (part : List Char) (used : Nat) : List Glyph → List (List Char)
  | [] => if part.isEmpty then [] else [part]
  | g :: rest =>
      if width < used + g.width then part :: chopFrom width g.chars g.width rest
      else chopFrom width (part ++ g.chars) (used + g.width) rest

/-- The first `width` columns of glyphs.  A blank stands for the half of a wide
one. -/
def takeColumns (width : Nat) : List Glyph → List Char
  | [] => []
  | g :: rest =>
      if g.width ≤ width then g.chars ++ takeColumns (width - g.width) rest
      else if width = 0 then []
      else [' ']

end Glyph

/-- A text cut into parts of at most `width` columns. -/
def chop (width : Nat) (cs : List Char) : List (List Char) :=
  Glyph.chopFrom width [] 0 (Glyph.ofChars cs)

/-- A text cut off behind `width` columns. -/
def crop (width : Nat) (cs : List Char) : List Char :=
  if cellsOf cs ≤ width then cs
  else if width = 0 then []
  else Glyph.takeColumns width (Glyph.ofChars cs)

end SchemaDiagram.Console
