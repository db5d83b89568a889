/-
# SchemaDiagram.Diagram.Search -- finding models by name

A model matches if its name contains the query, letter case aside.  A blank
query clears the search: then nothing is highlighted and nothing faded.
-/
import SchemaDiagram.Diagram.Basic

namespace SchemaDiagram

set_option autoImplicit false

structure SearchResult where
  query : String
  /-- The names that match, in the order of the models. -/
  matches_ : List String := []
deriving DecidableEq, Repr, Inhabited

namespace SearchResult

def cleared (r : SearchResult) : Bool :=
  Text.allBlank r.query

def first? (r : SearchResult) : Option String :=
  r.matches_.head?

def isHighlighted (r : SearchResult) (name : String) : Bool :=
  r.matches_.contains name

def isFaded (r : SearchResult) (name : String) : Bool :=
  !r.cleared && !r.matches_.contains name

end SearchResult

namespace Schema

def nameMatches (query name : String) : Bool :=
  Text.contains (Text.lower query) (Text.lower name)

def search (s : Schema) (query : String) : SearchResult where
  query
  matches_ := if Text.allBlank query then [] else s.modelNames.filter (nameMatches query)

end Schema

end SchemaDiagram
