/-
# SchemaDiagram.Yaml.Reader -- the value of a YAML text

Plain texts are read by their meaning, quoted ones stand for themselves, and a
tag of the core set asks for one meaning.  The merge key `<<` takes over the
members of one mapping or of several, those written in the mapping itself
counting more.  Where a key is written twice, the last value stands in the
first place.  Only scalars are keys.

Several nodes may be no value.  The fault of the outermost one is told, and of
those that lie equally deep the first.

A node with an anchor is read once, however many aliases stand for it.
-/
import SchemaDiagram.Text.Base64
import SchemaDiagram.Text.Halves
import SchemaDiagram.Yaml.Node
import SchemaDiagram.Yaml.Scalar

namespace SchemaDiagram.Yaml

set_option autoImplicit false

/-! ## Tags -/

inductive Tag where
  | null
  | bool
  | int
  | real
  | stamp
  | bytes
  | text
  | sequence
  /-- A sequence of mappings with one pair each. -/
  | pairs
  /-- A mapping that counts for its keys. -/
  | set
  | mapping
  /-- The key that takes over the members of another mapping. -/
  | merge
  /-- The key of a default value. -/
  | default
  | unknown
deriving DecidableEq, Repr

namespace Tag

/-- The tags by their names in the core set. -/
def names : List (String × Tag) :=
  [("null", null), ("bool", bool), ("int", int), ("float", real), ("timestamp", stamp),
    ("binary", bytes), ("str", text), ("seq", sequence), ("omap", pairs), ("pairs", pairs),
    ("set", set), ("map", mapping), ("merge", merge), ("value", default)]

def ofName (name : String) : Tag :=
  ((names.find? fun p => coreTags ++ p.1 == name).map (·.2)).getD unknown

/-- The tag of a plain text. -/
def ofMeaning : Meaning → Tag
  | .null => null
  | .bool _ => bool
  | .int => int
  | .real => real
  | .stamp => stamp
  | .merge => merge
  | .default => default
  | .text => text

/-- The tag that is written, unless it is missing or leaves the kind open. -/
def given (tag : Option String) (otherwise : Tag) : Tag :=
  match tag with
  | none | some "!" => otherwise
  | some name => ofName name

end Tag

/-- A text without quotes goes by its meaning, and so does one whose tag leaves the
kind open. -/
def Node.tag : Node → Tag
  | .scalar tag plain text =>
      .given tag (if plain || tag.isSome then .ofMeaning (meaning text) else .text)
  | .sequence tag _ => .given tag .sequence
  | .mapping tag _ => .given tag .mapping
  | .again _ node | .tied _ node => node.tag
  | .within _ => .unknown

/-- A node without its anchor. -/
def Node.bare : Node → Node
  | .again _ node | .tied _ node => node.bare
  | node => node

/-! ## Scalars -/

/-- The text of a node, or of the default value in it; `fuel` bounds how deep
defaults lie in each other. -/
def Node.text? (fuel : Nat) (node : Node) : Option String :=
  match fuel, node.bare with
  | _, .scalar _ _ text => some text
  | fuel + 1, .mapping _ pairs =>
      (pairs.find? fun p => p.1.tag = .default).bind fun p => p.2.text? fuel
  | _, _ => none

def truth (s : String) : Except BadLiteral Bool :=
  let word := Text.lower s
  match meaning word with
  | .bool b => .ok b
  | _ => .error (.truth word)

def scalarOf {α : Type} (make : α → Scalar) (read : Except BadLiteral α) :
    Except ReadFault Scalar :=
  match read with
  | .ok a => .ok (make a)
  | .error l => .error (.literal l)

/-- What a text writes under a tag; a collection is written by no text. -/
def Tag.scalar (tag : Tag) (s : String) : Except ReadFault Scalar :=
  match tag with
  | .null => .ok .null
  | .bool => scalarOf .bool (truth s)
  | .int => scalarOf .int (integer s.toList)
  | .real => scalarOf .real (Yaml.real s.toList)
  | .stamp => scalarOf .stamp (Yaml.stamp s.toList)
  | .bytes =>
      if s.toList.all fun c => c.toNat < 128 then
        orMalformed ((Text.ofBase64? s.toList).map .bytes)
      else .error .malformed
  | .text => .ok (.text s)
  | _ => .error .malformed

/-! ## The outermost fault -/

/-- A fault, and how many collections it lies in, inside of the node that is read. -/
structure Misread where
  depth : Nat
  fault : ReadFault

abbrev Result (α : Type) := Except Misread α

namespace Result

variable {α β : Type}

/-- Both, or the fault of the one that lies less deep. -/
def both : Result α → Result β → Result (α × β)
  | .ok a, .ok b => .ok (a, b)
  | .error e, .ok _ => .error e
  | .ok _, .error e => .error e
  | .error e, .error e' => .error (if e'.depth < e.depth then e' else e)

def all : List (Result α) → Result (List α)
  | [] => .ok []
  | r :: rest => (both r (all rest)).map fun (a, as) => a :: as

def ofRead (r : Except ReadFault α) : Result α :=
  r.mapError fun fault => { depth := 0, fault }

def malformed : Result α :=
  ofRead (.error .malformed)

/-- What is read inside of a collection. -/
def deeper (r : Result α) : Result α :=
  r.mapError fun e => { e with depth := e.depth + 1 }

end Result

/-! ## Merge keys -/

/-- The node that an alias inside of it stands for. -/
def Node.whole (anchors : Anchors) (anchor : String) : Node :=
  ((anchors.lookup anchor).bind id).getD (absent none)

/-- The mapping's own pairs behind those that its merge keys take over; `fuel`
bounds how deep merges lie in each other. -/
def flattened (anchors : Anchors) : Nat → List (Node × Node) → Option (List (Node × Node))
  | 0, _ => none
  | fuel + 1, pairs => do
      let own := pairs.filter fun p => p.1.tag != .merge
      let taken ← (pairs.filter fun p => p.1.tag = .merge).mapM fun p => takenOver fuel p.2
      some (taken.flatten ++ own)
where
  /-- The pairs of a mapping; of one that the merge key stands in, its own ones. -/
  pairsOf (fuel : Nat) (node : Node) : Option (List (Node × Node)) :=
    match node.bare with
    | .within anchor =>
        match (Node.whole anchors anchor).bare with
        | .mapping _ pairs => some (pairs.filter fun p => p.1.tag != .merge)
        | _ => none
    | .mapping _ pairs => flattened anchors fuel pairs
    | _ => none
  takenOver (fuel : Nat) (node : Node) : Option (List (Node × Node)) :=
    match node.bare with
    | .sequence _ items => (items.reverse.mapM (pairsOf fuel)).map List.flatten
    | _ => pairsOf fuel node

/-! ## Nodes -/

/-- The key that a node makes. -/
def key (node : Node) : Except ReadFault Scalar :=
  match node.text? 1, node.tag with
  | some s, .default => .ok (.text s)
  | some s, tag => tag.scalar s
  | none, _ => .error .malformed

/-- What is left of a node within itself after some turns. -/
def cutOff : Node → Value
  | .mapping .. => .object []
  | _ => .list []

/-- The values of nodes by their anchors. -/
abbrev Values := List (String × Result Value)

/-- What is known of the nodes with anchors. -/
structure Known where
  anchors : Anchors
  /-- The values of those that are read. -/
  values : Values := []
  /-- The values that they have within themselves. -/
  inner : Values := []

/-- The value of a node; `fuel` bounds how deep nodes lie in each other. -/
def value (known : Known) (fuel : Nat) (node : Node) : Result Value :=
  match fuel with
  | 0 => .ofRead (.error (.nesting ""))
  | fuel + 1 =>
      let item (node : Node) : Result Value := (value known fuel node).deeper
      let members (pairs : List (Node × Node)) : Result Members :=
        match flattened known.anchors (fuel + 1) pairs with
        | none => Result.malformed.deeper
        | some pairs =>
            (Result.all (pairs.map fun (k, v) =>
              Result.both (Result.ofRead (key k)).deeper (item v))).map
                fun members => members.foldl (fun acc (k, v) => Members.put k v acc) []
      let pair (node : Node) : Result Value :=
        match node.bare with
        | .mapping _ [(k, v)] => (Result.both (item k) (item v)).map fun (k, v) => .pair k v
        | _ => Result.malformed.deeper
      match node.tag, node with
      | _, .again anchor node => (known.values.lookup anchor).getD (value known fuel node)
      | _, .tied anchor node => (value known fuel node).map (.knot anchor)
      | _, .within anchor =>
          (known.inner.lookup anchor).getD
            (.ok (.knot anchor (cutOff (Node.whole known.anchors anchor).bare)))
      | .sequence, .sequence _ items => (Result.all (items.map item)).map .list
      | .pairs, .sequence _ items => (Result.all (items.map pair)).map .list
      | .mapping, .mapping _ pairs => (members pairs).map .object
      | .set, .mapping _ pairs =>
          (members pairs).map fun members => .set (members.map (·.1))
      | .sequence, _ | .pairs, _ | .mapping, _ | .set, _ => Result.malformed.deeper
      | tag, _ =>
          match node.text? fuel with
          | some s => (Result.ofRead (tag.scalar s)).map .scalar
          | none => .malformed

/-! ## Documents -/

/-- The nodes with anchors, a node behind those that it holds. -/
def Document.anchored (d : Document) : List (String × Node) :=
  (d.anchors.filterMap fun (name, node) => node.map (name, ·)).reverse

/-- What is known of a document's nodes when those within themselves are shown
there for so many turns. -/
def Document.known (d : Document) (fuel : Nat) : Nat → Known
  | 0 => read []
  | turns + 1 => read (d.known fuel turns).values
where
  read (inner : Values) : Known :=
    d.anchored.foldl (fun known (name, node) =>
      { known with values := (name, value known fuel node) :: known.values })
      { anchors := d.anchors, inner }

/-- How often a node within itself is shown in itself. -/
def mostTurns : Nat := 5

/-- The value that a text writes; null for a text without a document.  Halves of pairs
are read as the character `half`. -/
def readWith (half : Char) (s : String) : Except ReadFault Value := do
  let tokens := tokensOf half s
  match ← document? tokens with
  | none => return .null
  | some d =>
      let fuel := 2 * tokens.length + 8
      (value (d.known fuel mostTurns) fuel d.root).mapError (·.fault)

def read (s : String) : Except ReadFault Value :=
  readWith Text.standIn s

end SchemaDiagram.Yaml
