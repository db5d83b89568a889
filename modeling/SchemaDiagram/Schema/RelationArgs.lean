/-
# SchemaDiagram.Schema.RelationArgs -- reading the `@relation(…)` annotation

The arguments are the text up to the first closing parenthesis.  Inside it each
argument is found by its name, wherever it stands: `fields` and `references`
take a bracketed list of columns, `onDelete` and `onUpdate` a word.  What is
missing stays empty.
-/
import SchemaDiagram.Schema.Basic
import SchemaDiagram.Text.Blank
import SchemaDiagram.Text.WordChar

namespace SchemaDiagram.RelationArgs

set_option autoImplicit false

/-- The text up to `stop`, unless it is empty or there is no `stop`. -/
def upTo (stop : Char) (cs : List Char) : Option (List Char) :=
  let body := cs.takeWhile (· != stop)
  if body.isEmpty || (cs.dropWhile (· != stop)).isEmpty then none else some body

/-- The text between brackets, blanks before them skipped. -/
def bracketed (cs : List Char) : Option (List Char) :=
  match cs.dropWhile Text.isBlank with
  | '[' :: rest => upTo ']' rest
  | _ => none

/-- The word that comes next, blanks before it skipped. -/
def nextWord (cs : List Char) : Option (List Char) :=
  let word := (cs.dropWhile Text.isBlank).takeWhile Text.isWordChar
  if word.isEmpty then none else some word

/-- The columns of a list: trimmed, and without quotes. -/
def columns (list : List Char) : List String :=
  (Text.piecesOf ',' list).map fun item =>
    String.ofList ((Text.strip Text.isBlank item).filter fun c => c != '"' && c != '\'')

/-- The arguments inside the parentheses. -/
def ofArguments (cs : List Char) : RelationArgs where
  fields := ((Text.firstAfter "fields:".toList bracketed cs).map columns).getD []
  references := ((Text.firstAfter "references:".toList bracketed cs).map columns).getD []
  onDelete := (Text.firstAfter "onDelete:".toList nextWord cs).map String.ofList
  onUpdate := (Text.firstAfter "onUpdate:".toList nextWord cs).map String.ofList

/-- The arguments of the first annotation of a line that has any. -/
def ofLine (line : String) : RelationArgs :=
  match Text.firstAfter "@relation(".toList (upTo ')') line.toList with
  | some arguments => ofArguments arguments
  | none => {}

end SchemaDiagram.RelationArgs
