/-
# SchemaDiagram.Yaml.Node -- the nodes of a YAML document

Tokens make up one document at most.  An anchor names one node of a document, and
an alias stands for the node named; it may stand inside of that node.  A node that
is left out is an empty text.

The steps that read nodes call each other on fewer tokens, or once more on the
same ones; `fuel` bounds their number.
-/
import SchemaDiagram.Yaml.Token

namespace SchemaDiagram.Yaml

set_option autoImplicit false

inductive Node where
  | scalar (tag : Option String) (plain : Bool) (text : String)
  | sequence (tag : Option String) (items : List Node)
  | mapping (tag : Option String) (pairs : List (Node × Node))
  /-- The node of that anchor once more. -/
  | again (anchor : String) (node : Node)
  /-- A node that has a part which stands for the whole of it. -/
  | tied (anchor : String) (node : Node)
  /-- The node of that anchor, this one being a part of it. -/
  | within (anchor : String)
deriving Inhabited

/-- Nodes by their anchors; none while the node is being read. -/
abbrev Anchors := List (String × Option Node)

/-- What the handles of tags stand for. -/
abbrev Handles := List (String × String)

/-- The tokens ahead, and what has been declared before them. -/
structure Ahead where
  tokens : List Token
  anchors : Anchors := []
  /-- The anchors of nodes that have themselves as a part. -/
  ties : List String := []
  handles : Handles := []

/-- Reads one thing from what is ahead. -/
abbrev Parse := StateT Ahead (Except ReadFault)

namespace Parse

variable {α : Type}

/-- The next token cannot stand here, unless there is none to be read. -/
def refuse : Parse α := do
  match (← get).tokens with
  | .fault f :: _ => throw f
  | _ => throw .malformed

def tokens : Parse (List Token) :=
  return (← get).tokens

/-- Go on with these tokens. -/
def goOn (rest : List Token) : Parse Unit :=
  modify fun a => { a with tokens := rest }

/-- Whether the next token is one of those that `p` holds for; the end counts
too. -/
def isBefore (p : Token → Bool) : Parse Bool :=
  return match (← get).tokens with
    | t :: _ => p t
    | [] => true

end Parse

/-- The node that stands for one left out. -/
def absent (tag : Option String) : Node :=
  .scalar tag true ""

/-! ## Tags -/

def coreTags : String := "tag:yaml.org,2002:"

def standardHandles : Handles := [("!", "!"), ("!!", coreTags)]

/-- A tag in full, if its handle is declared. -/
def fullTag? (handles : Handles) (handle : Option String) (suffix : String) : Option String :=
  match handle with
  | none => some suffix
  | some name => (handles.lookup name).map (· ++ suffix)

/-- The anchor and the tag before a node, in either order. -/
structure Properties where
  anchor : Option String := none
  tag : Option String := none

namespace Properties

def isSome (p : Properties) : Bool :=
  p.anchor.isSome || p.tag.isSome

def take : Parse Properties := do
  let full (handle : Option String) (suffix : String) : Parse String := do
    match fullTag? (← get).handles handle suffix with
    | some tag => return tag
    | none => throw .malformed
  match ← Parse.tokens with
  | .anchor name :: .tag handle suffix :: rest
  | .tag handle suffix :: .anchor name :: rest =>
      Parse.goOn rest
      return { anchor := some name, tag := some (← full handle suffix) }
  | .anchor name :: rest =>
      Parse.goOn rest
      return { anchor := some name }
  | .tag handle suffix :: rest =>
      Parse.goOn rest
      return { tag := some (← full handle suffix) }
  | _ => return {}

/-- Make the anchor known; each names one node. -/
def declare (p : Properties) : Parse Unit := do
  if let some name := p.anchor then
    if (← get).anchors.any (·.1 == name) then throw .malformed
    modify fun a => { a with anchors := (name, none) :: a.anchors }

/-- Give the anchor its node. -/
def assign (p : Properties) (node : Node) : Parse Node := do
  match p.anchor with
  | none => return node
  | some name =>
      let node := if (← get).ties.contains name then .tied name node else node
      modify fun a => { a with anchors := (name, some node) :: a.anchors }
      return node

end Properties

/-- The node that an alias stands for. -/
def aliased (name : String) : Parse Node := do
  match (← get).anchors.lookup name with
  | some (some node) => return .again name node
  | some none =>
      modify fun a => { a with ties := name :: a.ties }
      return .within name
  | none => throw .malformed

/-! ## Places -/

/-- Where a node stands, which tells what it may be. -/
inductive Place where
  /-- On its own lines. -/
  | block
  /-- Behind a key, where a sequence need not be indented. -/
  | afterKey
  | flow
deriving DecidableEq

def stopsEntry (t : Token) : Bool :=
  t == .blockEntry || t == .blockEnd

def stopsLooseEntry (t : Token) : Bool :=
  t == .blockEntry || t == .key || t == .value || t == .blockEnd

def stopsPair (t : Token) : Bool :=
  t == .key || t == .value || t == .blockEnd

def stopsFlowItemKey (t : Token) : Bool :=
  t == .value || t == .flowEntry || t == .flowSequenceEnd

def stopsFlowItem (t : Token) : Bool :=
  t == .flowEntry || t == .flowSequenceEnd

def stopsFlowKey (t : Token) : Bool :=
  t == .value || t == .flowEntry || t == .flowMappingEnd

def stopsFlowValue (t : Token) : Bool :=
  t == .flowEntry || t == .flowMappingEnd

/-- The comma before all items but the first. -/
def takeComma (first : Bool) : Parse Unit := do
  if first then return
  match ← Parse.tokens with
  | .flowEntry :: rest => Parse.goOn rest
  | _ => Parse.refuse

/-! ## Nodes

`room` is how many more collections may be opened inside of each other. -/

/-- The most collections inside of each other. -/
def deepestNode : Nat := 485

/-- What is read of a collection, in the room that is left in it. -/
def inside {α : Type} (room : Nat) (read : Nat → Parse α) : Parse α :=
  match room with
  | 0 => throw (.nesting "")
  | room + 1 => read room

mutual

def readNode (fuel room : Nat) (place : Place) : Parse Node := do
  match fuel with
  | 0 => throw .malformed
  | fuel + 1 =>
      match ← Parse.tokens with
      | .alias name :: rest =>
          Parse.goOn rest
          aliased name
      | _ =>
          let props ← Properties.take
          props.declare
          props.assign (← readContent fuel room place props)

/-- A node behind its properties; it may be left out if it has any. -/
def readContent (fuel room : Nat) (place : Place) (props : Properties) : Parse Node := do
  match fuel with
  | 0 => throw .malformed
  | fuel + 1 =>
      match place, ← Parse.tokens with
      | _, .scalar plain text :: rest =>
          Parse.goOn rest
          return .scalar props.tag plain text
      | _, .flowSequenceStart :: rest =>
          Parse.goOn rest
          return .sequence props.tag (← inside room (readFlowItems fuel · true))
      | _, .flowMappingStart :: rest =>
          Parse.goOn rest
          return .mapping props.tag (← inside room (readFlowPairs fuel · true))
      | .afterKey, .blockEntry :: _ =>
          return .sequence props.tag (← inside room (readLooseItems fuel ·))
      | _, .fault f :: _ => throw f
      | place, tokens =>
          if place != .flow && tokens.head? = some .blockSequenceStart then
            Parse.goOn tokens.tail
            return .sequence props.tag (← inside room (readItems fuel ·))
          else if place != .flow && tokens.head? = some .blockMappingStart then
            Parse.goOn tokens.tail
            return .mapping props.tag (← inside room (readPairs fuel ·))
          else if props.isSome then return absent props.tag
          else throw .malformed

/-- A node, unless it is left out before a token for which `stops` holds. -/
def readOptional (fuel room : Nat) (place : Place) (stops : Token → Bool) : Parse Node := do
  match fuel with
  | 0 => throw .malformed
  | fuel + 1 =>
      if ← Parse.isBefore stops then return absent none
      else readNode fuel room place

/-- The items of an indented sequence, and the end of its block. -/
def readItems (fuel room : Nat) : Parse (List Node) := do
  match fuel with
  | 0 => throw .malformed
  | fuel + 1 =>
      match ← Parse.tokens with
      | .blockEntry :: rest =>
          Parse.goOn rest
          let node ← readOptional fuel room .block stopsEntry
          return node :: (← readItems fuel room)
      | .blockEnd :: rest =>
          Parse.goOn rest
          return []
      | _ => Parse.refuse

/-- The items of a sequence that is not indented. -/
def readLooseItems (fuel room : Nat) : Parse (List Node) := do
  match fuel with
  | 0 => throw .malformed
  | fuel + 1 =>
      match ← Parse.tokens with
      | .blockEntry :: rest =>
          Parse.goOn rest
          let node ← readOptional fuel room .block stopsLooseEntry
          return node :: (← readLooseItems fuel room)
      | _ => return []

/-- The pairs of a mapping on lines of its own, and the end of its block. -/
def readPairs (fuel room : Nat) : Parse (List (Node × Node)) := do
  match fuel with
  | 0 => throw .malformed
  | fuel + 1 =>
      match ← Parse.tokens with
      | .key :: rest =>
          Parse.goOn rest
          let key ← readOptional fuel room .afterKey stopsPair
          let value ← readValue fuel room .afterKey stopsPair
          return (key, value) :: (← readPairs fuel room)
      | .blockEnd :: rest =>
          Parse.goOn rest
          return []
      | _ => Parse.refuse

/-- The value behind a key, if its mark is there. -/
def readValue (fuel room : Nat) (place : Place) (stops : Token → Bool) : Parse Node := do
  match fuel with
  | 0 => throw .malformed
  | fuel + 1 =>
      match ← Parse.tokens with
      | .value :: rest =>
          Parse.goOn rest
          readOptional fuel room place stops
      | _ => return absent none

/-- The items between square brackets, and the closing bracket.  An item may be
a single pair. -/
def readFlowItems (fuel room : Nat) (first : Bool) : Parse (List Node) := do
  match fuel with
  | 0 => throw .malformed
  | fuel + 1 =>
      if (← Parse.tokens).head? != some .flowSequenceEnd then takeComma first
      match ← Parse.tokens with
      | .flowSequenceEnd :: rest =>
          Parse.goOn rest
          return []
      | .key :: rest =>
          Parse.goOn rest
          let pair ← inside room (readFlowPair fuel ·)
          return .mapping none [pair] :: (← readFlowItems fuel room false)
      | _ =>
          let node ← readNode fuel room .flow
          return node :: (← readFlowItems fuel room false)

/-- A single pair among items. -/
def readFlowPair (fuel room : Nat) : Parse (Node × Node) := do
  match fuel with
  | 0 => throw .malformed
  | fuel + 1 =>
      let key ← readOptional fuel room .flow stopsFlowItemKey
      return (key, ← readValue fuel room .flow stopsFlowItem)

/-- The pairs between braces, and the closing brace. -/
def readFlowPairs (fuel room : Nat) (first : Bool) : Parse (List (Node × Node)) := do
  match fuel with
  | 0 => throw .malformed
  | fuel + 1 =>
      if (← Parse.tokens).head? != some .flowMappingEnd then takeComma first
      match ← Parse.tokens with
      | .flowMappingEnd :: rest =>
          Parse.goOn rest
          return []
      | .key :: rest =>
          Parse.goOn rest
          let key ← readOptional fuel room .flow stopsFlowKey
          let value ← readValue fuel room .flow stopsFlowValue
          return (key, value) :: (← readFlowPairs fuel room false)
      | _ =>
          let key ← readNode fuel room .flow
          return (key, absent none) :: (← readFlowPairs fuel room false)

end

/-! ## Documents -/

/-- Directives, and the mark that must follow them.  The version must be of the
first edition, and no directive may be there twice. -/
def takeStart (hasVersion : Bool) (handles : Handles) : List Token → Parse Unit
  | .directive :: rest => takeStart hasVersion handles rest
  | .version major :: rest =>
      if hasVersion || major != 1 then throw .malformed else takeStart true handles rest
  | .handle name stem :: rest =>
      if (handles.lookup name).isSome then throw .malformed
      else takeStart hasVersion ((name, stem) :: handles) rest
  | .documentStart :: rest =>
      modify fun a => { a with tokens := rest, handles := handles ++ standardHandles }
  | .fault f :: _ => throw f
  | _ => throw .malformed

def startsDocument : Token → Bool
  | .version _ | .handle .. | .directive | .documentStart => true
  | _ => false

def endsDocument (t : Token) : Bool :=
  startsDocument t || t == .documentEnd

/-- A document: its one node, and the nodes with anchors in it. -/
structure Document where
  root : Node
  anchors : Anchors

/-- The one document of the tokens.  Nothing but end marks may follow it. -/
def readDocument : Parse Document := do
  let tokens ← Parse.tokens
  let explicit ← Parse.isBefore startsDocument
  if explicit then takeStart false [] tokens
  let root ←
    if explicit && (← Parse.isBefore endsDocument) then pure (absent none)
    else readNode (4 * tokens.length + 4) deepestNode .block
  let rest := (← Parse.tokens).dropWhile (· == .documentEnd)
  Parse.goOn rest
  if rest.isEmpty then return { root, anchors := (← get).anchors }
  else Parse.refuse

/-- The document that the tokens make up, if there is one. -/
def document? (tokens : List Token) : Except ReadFault (Option Document) :=
  if tokens.isEmpty then .ok none
  else (readDocument.run' { tokens, handles := standardHandles }).map some

end SchemaDiagram.Yaml
