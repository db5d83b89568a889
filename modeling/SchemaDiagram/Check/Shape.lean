/-
# SchemaDiagram.Check.Shape -- the shape that a document must have

A shape says what kind of value stands where.  `violations` lists what a value
gets wrong, in the order of the shape: a value of the wrong kind is reported
alone, a record first for its missing members and then for those it has.
Members that the shape does not name may hold anything.

One violation is chosen to stand for all of them: the one nearest to the root,
of those the last by its path, and of those on one path the first.
-/
import SchemaDiagram.Data.Literal
import SchemaDiagram.Data.Step

namespace SchemaDiagram

set_option autoImplicit false

inductive Shape where
  | text
  | textOrNull
  | flag
  | number
  /-- One of these texts. -/
  | oneOf (texts : List String)
  | listOf (item : Shape)
  /-- An object that has the members `required`, and whose members have the
  shapes given for them. -/
  | record (required : List String) (members : List (String × Shape))

structure Violation where
  path : List Step
  /-- The rule that is broken, as a path into the written form of the shape. -/
  rule : List String
  message : String

namespace Violation

/-- The violation seen from one step further out. -/
def under (step : List Step) (rule : List String) (v : Violation) : Violation :=
  { v with path := step ++ v.path, rule := rule ++ v.rule }

/-- Whether `w` is chosen over `v` although it comes later. -/
def yieldsTo (v w : Violation) : Bool :=
  w.path.length < v.path.length ||
    (w.path.length == v.path.length && comparePaths v.path w.path == .lt)

def chosenFrom (v : Violation) : List Violation → Violation
  | [] => v
  | w :: rest => chosenFrom (if v.yieldsTo w then w else v) rest

def chosen? : List Violation → Option Violation
  | [] => none
  | v :: rest => some (chosenFrom v rest)

end Violation

namespace Shape

open Text (join)

def wrongKind (v : Value) (kinds : List String) : List Violation :=
  [{ path := []
     rule := ["type"]
     message := v.literal ++ " is not of type " ++ join ", " (kinds.map Text.literal) }]

def notOneOf (texts : List String) (v : Value) : List Violation :=
  [{ path := []
     rule := ["enum"]
     message := v.literal ++ " is not one of " ++ (Value.ofTexts texts).literal }]

def missing (members : Members) (required : List String) : List Violation :=
  (required.filter fun (key : String) => (Members.get? key members).isNone).map fun key =>
    { path := [], rule := ["required"], message := Text.literal key ++ " is a required property" }

/-- What the items of a list get wrong. -/
def itemViolations (check : Value → List Violation) (index : Nat) : List Value → List Violation
  | [] => []
  | v :: rest =>
      (check v).map (.under [.index index] ["items"]) ++ itemViolations check (index + 1) rest

mutual

def violations : Shape → Value → List Violation
  | .text, v =>
      match v.untied with
      | .text _ => []
      | _ => wrongKind v ["string"]
  | .textOrNull, v =>
      match v.untied with
      | .text _ | .null => []
      | _ => wrongKind v ["string", "null"]
  | .flag, v =>
      match v.untied with
      | .bool _ => []
      | _ => wrongKind v ["boolean"]
  | .number, v =>
      match v.untied with
      | .int _ | .real _ => []
      | _ => wrongKind v ["number"]
  | .oneOf texts, v =>
      match v.untied with
      | .text s => if texts.contains s then [] else notOneOf texts v
      | _ => notOneOf texts v
  | .listOf item, v =>
      match v.untied with
      | .list items => itemViolations (violations item) 0 items
      | _ => wrongKind v ["array"]
  | .record required shapes, v =>
      match v.untied with
      | .object members => missing members required ++ memberViolations shapes members
      | _ => wrongKind v ["object"]

def memberViolations : List (String × Shape) → Members → List Violation
  | [], _ => []
  | (key, shape) :: rest, members =>
      (match Members.get? key members with
        | some v => (violations shape v).map (.under [.key key] ["properties", key])
        | none => []) ++ memberViolations rest members

end

end Shape

end SchemaDiagram
