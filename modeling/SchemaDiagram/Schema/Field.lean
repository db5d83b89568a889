/-
# SchemaDiagram.Schema.Field -- a field and its declaration

A declaration is a name, a type and attributes, separated by blanks.  An
annotation `@relation(…)` that holds blanks is put together again from its
words: words are added as long as it has more opening than closing parentheses.
Of the other words only attributes and a lone `?` are kept.

`ofLine?` reads a declaration and `derived` builds a field from its parts; both
work out whether it is a relation field and to which model it refers.
-/
import SchemaDiagram.Schema.Basic
import SchemaDiagram.Text.Blank

namespace SchemaDiagram.Field

set_option autoImplicit false

/-! ## Types -/

def scalarTypes : List String :=
  ["String", "Int", "Float", "Boolean", "DateTime", "Json", "Bytes"]

/-- Whether a type refers to a model: it starts with a capital letter and is no
scalar.  An enum looks the same. -/
def isModelType (type : String) : Bool :=
  let base := baseTypeOf type
  !scalarTypes.contains base && (base.toList.head?.map Char.isUpper).getD false

/-! ## Attributes -/

/-- Opening parentheses less closing ones. -/
def depth (text : String) : Int :=
  (Text.count '(' text : Int) - Text.count ')' text

def opensAnnotation (word : String) : Bool :=
  Text.startsWith "@relation(" word

def isAttribute (word : String) : Bool :=
  Text.startsWith "@" word || word == "?"

/-- The attributes among the words of a declaration.  `pending` is an annotation
whose parentheses are still open. -/
def attributesAfter : Option String → List String → List String
  | none, [] => []
  | some pending, [] => [pending]
  | none, word :: rest =>
      if opensAnnotation word && 0 < depth word then attributesAfter (some word) rest
      else if isAttribute word then word :: attributesAfter none rest
      else attributesAfter none rest
  | some pending, word :: rest =>
      let longer := pending ++ " " ++ word
      if 0 < depth longer then attributesAfter (some longer) rest
      else longer :: attributesAfter none rest

def attributes (words : List String) : List String :=
  attributesAfter none words

/-! ## Fields -/

/-- A field of that type, which refers to a model if `isRelation`. -/
def ofParts (name type : String) (modifiers : List String) (isRelation : Bool) : Field :=
  { name, type, modifiers, isRelation,
    relationTo := if isRelation then some (baseTypeOf type) else none }

/-- The field that a line declares; `none` if it has fewer than two words. -/
def ofLine? (line : String) : Option Field :=
  match Text.words line with
  | name :: type :: rest =>
      some (ofParts name type (attributes rest)
        (Text.contains "@relation" line || isModelType type))
  | _ => none

/-- The field with these parts, its relation flags worked out from them. -/
def derived (name type : String) (modifiers : List String) : Field :=
  ofParts name type modifiers (modifiers.any (Text.contains "@relation") || isModelType type)

end SchemaDiagram.Field
