/-
# SchemaDiagram.Data.Literal -- a value as findings quote it
-/
import SchemaDiagram.Data.Value
import SchemaDiagram.Text.Literal
import SchemaDiagram.Text.Search

namespace SchemaDiagram

set_option autoImplicit false

open Text (join)

def Scalar.literal : Scalar → String
  | null => "None"
  | bool b => if b then "True" else "False"
  | int n => Text.decimalInt n
  | real x => x.render
  | text s => Text.literal s
  | bytes content => Text.bytesLiteral content
  | stamp s => s.literal

namespace Value

mutual

/-- A value inside of others; `around` are the names of those that hold themselves,
which are not gone into once more. -/
def literalIn (around : List String) : Value → String
  | .scalar s => s.literal
  | .list items => "[" ++ join ", " (literals around items) ++ "]"
  | .object members => "\x7b" ++ join ", " (memberLiterals around members) ++ "\x7d"
  | .pair first second => "(" ++ literalIn around first ++ ", " ++ literalIn around second ++ ")"
  | .set keys =>
      if keys.isEmpty then "set()"
      else "\x7b" ++ join ", " (keys.map Scalar.literal) ++ "\x7d"
  | .knot name inside =>
      if around.contains name then
        match inside.untied with
        | .object _ => "\x7b...\x7d"
        | _ => "[...]"
      else literalIn (name :: around) inside

def literals (around : List String) : List Value → List String
  | [] => []
  | v :: rest => literalIn around v :: literals around rest

def memberLiterals (around : List String) : Members → List String
  | [] => []
  | (key, v) :: rest => (key.literal ++ ": " ++ literalIn around v) :: memberLiterals around rest

end

def literal (v : Value) : String :=
  v.literalIn []

end Value

end SchemaDiagram
