/-
# SchemaDiagram.Diagram.Document -- a diagram as a document

A document has a node for each model, at its place on the grid, the edges, and
the enums.  A document of the right shape can be read back.  What it leaves out
is filled in: relation flags are derived, an edge is one-to-one, starts at the
field without name and takes its colour from the palette.

The field that an edge ends at is told by its target handle; `targetField` of
the edge's data counts only where there is no handle at all, since it is written
as `id` for an edge that ends at no field.
-/
import SchemaDiagram.Check.DocumentShape
import SchemaDiagram.Diagram.Basic
import SchemaDiagram.Schema.Record
import SchemaDiagram.Text.Case

namespace SchemaDiagram

set_option autoImplicit false

/-! ## Writing -/

def Field.toValue (f : Field) : Value :=
  .object
    [("name", .text f.name),
      ("type", .text f.type),
      ("modifiers", .ofTexts f.modifiers),
      ("isRelation", .bool f.isRelation),
      ("relationTo", .ofText? f.relationTo)]

def Position.toValue (p : Position) : Value :=
  .object [("x", .int p.x), ("y", .int p.y)]

def Model.toNode (m : Model) (p : Position) : Value :=
  .object
    [("id", .text m.name),
      ("type", .text "model"),
      ("position", p.toValue),
      ("data", .object
        [("name", .text m.name), ("fields", .list (m.fields.map (·.toValue)))])]

def RelationArgs.toValue (a : RelationArgs) : Value :=
  .object
    [("fields", .ofTexts a.fields),
      ("references", .ofTexts a.references),
      ("onDelete", .ofText? a.onDelete),
      ("onUpdate", .ofText? a.onUpdate)]

/-- The field an edge ends at, as documents show it. -/
def Edge.shownTargetField (e : Edge) : String :=
  match e.targetField with
  | some name => if name = "" then "id" else name
  | none => "id"

def Edge.toValue (e : Edge) : Value :=
  .object
    [("id", .text e.id),
      ("source", .text e.source),
      ("target", .text e.target),
      ("sourceHandle", .text e.sourceHandle),
      ("targetHandle", .ofText? e.targetHandle),
      ("type", .text "fieldRelationship"),
      ("animated", .bool true),
      ("data", .object
        [("sourceField", .text e.sourceField),
          ("targetField", .text e.shownTargetField),
          ("relationType", .text e.cardinality.name),
          ("relationDetails", e.args.toValue)]),
      ("style", .object [("stroke", .text e.color), ("strokeWidth", .int 2)])]

def Enumeration.toValue (e : Enumeration) : Value :=
  .object [("name", .text e.name), ("values", .ofTexts e.values)]

/-- The nodes of the models from number `index` on. -/
def Grid.nodesFrom (g : Grid) (index : Nat) : List Model → List Value
  | [] => []
  | m :: rest => m.toNode (g.position index) :: g.nodesFrom (index + 1) rest

def Diagram.toDocument (d : Diagram) : Value :=
  .object
    [("nodes", .list (d.grid.nodesFrom 0 d.schema.models)),
      ("edges", .list (d.schema.edges.map (·.toValue))),
      ("enums", .list (d.schema.enums.map (·.toValue)))]

/-! ## Parts of a document of the right shape -/

namespace Value

/-- The text that stands here, the empty one if there is none. -/
def asText (v : Option Value) : String :=
  match v.map untied with
  | some (.text s) => s
  | _ => ""

def asText? (v : Option Value) : Option String :=
  match v.map untied with
  | some (.text s) => some s
  | _ => none

def asItems (v : Option Value) : List Value :=
  match v.map untied with
  | some (.list items) => items
  | _ => []

def asTexts (v : Option Value) : List String :=
  (asItems v).map fun item => asText (some item)

def asMembers (v : Option Value) : Members :=
  match v.map untied with
  | some (.object members) => members
  | _ => []

def asFlag (v : Option Value) : Bool :=
  match v.map untied with
  | some (.bool b) => b
  | _ => false

end Value

open Value

/-! ## Reading -/

inductive DocumentError where
  /-- The document is not of the shape of a diagram. -/
  | misshapen (messages : List String)
  /-- Details of a relation are not what they should be. -/
  | invalid (problems : List Problem)
  /-- A key of such details is no text. -/
  | keyNotText (key : Scalar)
deriving DecidableEq, Repr, Inhabited

/-- What is said of a key that is no text.  Bytes are looked at one by one. -/
def DocumentError.keyMessage : Scalar → String
  | .bytes _ => "'int' object has no attribute 'isupper'"
  | key => "'" ++ key.kind ++ "' object is not iterable"

def Field.ofValue (v : Value) : Field :=
  let f := Field.derived (asText (v.get? "name")) (asText (v.get? "type"))
    (asTexts (v.get? "modifiers"))
  match v.get? "isRelation" with
  | none => f
  | some flag =>
      let isRelation := asFlag (some flag)
      { f with
        isRelation
        relationTo := if isRelation then asText? (v.get? "relationTo") else none }

def Model.ofNode (v : Value) : Model :=
  let data := (v.get? "data").getD .null
  { name := asText (data.get? "name")
    fields := (asItems (data.get? "fields")).map Field.ofValue }

/-- The key in snake case.  No bytes are no letters. -/
def snakeKey : Scalar → Except DocumentError String
  | .text s => .ok (Text.snakeCase s)
  | .bytes [] => .ok ""
  | key => .error (.keyNotText key)

/-- The members with keys in snake case; of two that become the same key the
later stands. -/
def snakeMembers : Members → Except DocumentError Members :=
  List.foldlM (fun acc (key, v) => return Members.put (← snakeKey key) v acc) []

/-- The edge that is written as number `index`. -/
def Edge.ofValue (index : Nat) (v : Value) : Except DocumentError Edge := do
  let data := asMembers (v.get? "data")
  let style := asMembers (v.get? "style")
  let targetField :=
    match v.get? "targetHandle" with
    | some handle => fieldOfHandle "-target" (asText? (some handle))
    | none => asText? (Members.get? "targetField" data)
  let cardinality :=
    ((asText? (Members.get? "relationType" data)).bind Cardinality.ofName?).getD .oneToOne
  let details ← snakeMembers (asMembers (Members.get? "relationDetails" data))
  let args ← (RelationArgs.ofMembers details).mapError .invalid
  return { id := asText (v.get? "id")
           source := asText (v.get? "source")
           target := asText (v.get? "target")
           sourceField := asText (Members.get? "sourceField" data)
           targetField
           cardinality
           args
           color := (asText? (Members.get? "stroke" style)).getD (strokeColor index) }

/-- The edges from number `index` on, up to the first that cannot be read. -/
def Edge.ofValuesFrom (index : Nat) : List Value → Except DocumentError (List Edge)
  | [] => .ok []
  | v :: rest => do
      let e ← Edge.ofValue index v
      let es ← Edge.ofValuesFrom (index + 1) rest
      return e :: es

def Enumeration.ofValue (v : Value) : Enumeration where
  name := asText (v.get? "name")
  values := asTexts (v.get? "values")

/-- The schema of a document of the right shape. -/
def Schema.ofValue (document : Value) : Except DocumentError Schema :=
  (Edge.ofValuesFrom 0 (asItems (document.get? "edges"))).map fun edges =>
    { models := (asItems (document.get? "nodes")).map Model.ofNode
      edges
      enums := (asItems (document.get? "enums")).map Enumeration.ofValue }

def Diagram.ofDocument (document : Value) (grid : Grid) : Except DocumentError Diagram :=
  let report := checkDocument document
  if report.valid then (Schema.ofValue document).map fun schema => { schema, grid }
  else .error (.misshapen report.errors)

end SchemaDiagram
