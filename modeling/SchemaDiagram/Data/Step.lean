/-
# SchemaDiagram.Data.Step -- paths into a value
-/
import SchemaDiagram.Text.Digits

namespace SchemaDiagram

set_option autoImplicit false

/-- A step into a value: a member by its key or an item by its index. -/
inductive Step where
  | key (name : String)
  | index (n : Nat)
deriving DecidableEq, Repr, Inhabited

namespace Step

def text : Step → String
  | key name => name
  | index n => Text.decimal n

def order : Step → Step → Ordering
  | key a, key b => compare a b
  | index a, index b => compare a b
  | index _, key _ => .lt
  | key _, index _ => .gt

end Step

/-- Paths compare by their first difference. -/
def comparePaths : List Step → List Step → Ordering
  | [], [] => .eq
  | [], _ :: _ => .lt
  | _ :: _, [] => .gt
  | a :: as, b :: bs => (a.order b).then (comparePaths as bs)

end SchemaDiagram
