/-
# SchemaDiagram.Files.Path -- the names of files

A path is shown without empty parts and without single dots, the empty path as
a dot.  Its suffix starts at the last dot of its name, unless that dot is the
first or the last character of the name.
-/
import SchemaDiagram.Text.Search

namespace SchemaDiagram

set_option autoImplicit false

structure Path where
  /-- One slash or two for an absolute path, else nothing. -/
  root : String := ""
  parts : List String := []
deriving DecidableEq, Repr, Inhabited

namespace Path

def rootOf (s : String) : String :=
  if Text.startsWith "///" s then "/"
  else if Text.startsWith "//" s then "//"
  else if Text.startsWith "/" s then "/"
  else ""

def ofText (s : String) : Path where
  root := rootOf s
  parts := (Text.pieces '/' s).filter fun part => part != "" && part != "."

def text (p : Path) : String :=
  let joined := p.root ++ Text.join "/" p.parts
  if joined = "" then "." else joined

/-- The last part; empty if there is none. -/
def name (p : Path) : String :=
  p.parts.getLastD ""

def parent (p : Path) : Path :=
  { p with parts := p.parts.dropLast }

def suffix (p : Path) : String :=
  let back := p.name.toList.reverse
  let ending := back.takeWhile (· != '.')
  if ending.isEmpty || back.length ≤ ending.length + 1 then ""
  else String.ofList ('.' :: ending.reverse)

end Path

end SchemaDiagram
