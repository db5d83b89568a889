/-
# SchemaDiagram.Text.Halves -- texts with halves of pairs

A character outside the first plane is a pair of numbers.  A text that is written by
numbers may have one half of a pair alone, which is no character.  Such a text is read
and passed on like any other, but it has no bytes: it can be neither printed nor
written to a file.

A reader puts a character in the place of halves.  Schemas and preambles are printed
from such texts as they are, whatever characters these have.  So a file is read twice,
with another character each time, and what is put together from its texts has a half in
it exactly if it is not the same both times.
-/

namespace SchemaDiagram

set_option autoImplicit false

/-- The character in the place of halves, unless another one is asked for. -/
def Text.standIn : Char := '\uFFFD'

def Text.otherStandIn : Char := '\uFFFE'

/-- What is read with either character in the place of halves. -/
structure Twin (α : Type) where
  first : α
  second : α
deriving DecidableEq, Repr

namespace Twin

variable {α β γ ε : Type}

def ofReader (read : Char → Except ε α) : Except ε (Twin α) := do
  return { first := ← read Text.standIn, second := ← read Text.otherStandIn }

def map (f : α → β) (a : Twin α) : Twin β :=
  { first := f a.first, second := f a.second }

def map₂ (f : α → β → γ) (a : Twin α) (b : Twin β) : Twin γ :=
  { first := f a.first b.first, second := f a.second b.second }

/-- The text, if it has no half in it. -/
def whole? (text : Twin String) : Option String :=
  if text.first = text.second then some text.first else none

end Twin

end SchemaDiagram
