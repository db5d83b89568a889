/-
# SchemaDiagram.Text.Order -- texts in ascending order

Texts compare by code points.
-/

namespace SchemaDiagram.Text

set_option autoImplicit false

/-- Put a text into an ascending list, unless it is there. -/
def insertOnce (s : String) : List String → List String
  | [] => [s]
  | t :: rest =>
      if s = t then t :: rest
      else if s < t then s :: t :: rest
      else t :: insertOnce s rest

/-- The texts in ascending order, each once. -/
def ascending (texts : List String) : List String :=
  texts.foldr insertOnce []

end SchemaDiagram.Text
