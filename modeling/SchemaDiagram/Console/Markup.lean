/-
# SchemaDiagram.Console.Markup -- styles in square brackets

Text for the console may hold tags: `[red]` opens a style and `[/red]` closes
it, `[/]` closes the last one.  A tag starts with a small letter, `#`, `/` or
`@`; other brackets are text.  A backslash before a tag makes it text, and two
make one.  Styles do not show here, so rendering drops the tags; it fails on a
closing tag that has no opening one.  Names of emoji between tags are replaced.

`escape` guards a text against being read as tags.
-/
import SchemaDiagram.Console.Constant
import SchemaDiagram.Console.Emoji
import SchemaDiagram.Console.Style

namespace SchemaDiagram.Markup

set_option autoImplicit false

/-! ## Tags -/

def startsTag (c : Char) : Bool :=
  ('a' ≤ c && c ≤ 'z') || c == '#' || c == '/' || c == '@'

/-- The inside of the tag that a text starts with, and the text behind it. -/
def tag? : List Char → Option (List Char × List Char)
  | '[' :: c :: rest =>
      if startsTag c then
        let body := rest.takeWhile fun x => x != ']' && x != '['
        match rest.drop body.length with
        | ']' :: after => some (c :: body, after)
        | _ => none
      else none
  | _ => none

/-! ## Pieces -/

/-- A text with tags, cut at its tags. -/
inductive Piece where
  | text (cs : List Char)
  | tag (name : List Char) (parameters : Option (List Char))
deriving DecidableEq, Repr

/-- The tag with that inside; parameters stand behind an equals sign. -/
def Piece.ofInside (inside : List Char) : Piece :=
  let name := inside.takeWhile (· != '=')
  match inside.drop name.length with
  | _ :: parameters => .tag name (some parameters)
  | [] => .tag name none

/-- The pieces of a text; `plain` is what was read since the last tag, the last
character first.  Each step takes a character at least. -/
def piecesFrom (plain : List Char) : Nat → List Char → List Piece
  | 0, cs => [.text (plain.reverse ++ cs)]
  | fuel + 1, cs =>
      let slashes := cs.takeWhile (· == '\\')
      let behind := cs.drop slashes.length
      match tag? behind with
      | some (inside, rest) =>
          let piece :=
            if slashes.length % 2 = 1 then .text ('[' :: (inside ++ [']']))
            else Piece.ofInside inside
          .text plain.reverse :: .text (List.replicate (slashes.length / 2) '\\') :: piece ::
            piecesFrom [] fuel rest
      | none =>
          match behind with
          | c :: rest => piecesFrom (c :: (slashes ++ plain)) fuel rest
          | [] => [.text (slashes ++ plain).reverse]

def pieces (cs : List Char) : List Piece :=
  piecesFrom [] (cs.length + 1) cs

/-! ## Rendering -/

/-- Why a text with tags cannot be shown. -/
inductive Fault where
  /-- A tag is closed that is not open, or one whose parameters cannot be
  read. -/
  | tag
  /-- The style of a tag is a color with an empty component. -/
  | component
deriving DecidableEq, Repr

/-- A tag that is open, with its style in normal form. -/
structure OpenTag where
  style : String
  parameters : Option (List Char)

/-- Whether a tag can be closed: one for a handler needs parameters that can be
read, if it has any. -/
def OpenTag.isSound (t : OpenTag) : Bool :=
  match t.style.toList, t.parameters with
  | '@' :: _, some (c :: cs) => Console.areParameters (c :: cs)
  | _, _ => true

/-- The open tags after the last one of that style is closed. -/
def close (style : String) : List OpenTag → Except Fault (List OpenTag)
  | [] => .error .tag
  | t :: rest =>
      if t.style = style then if t.isSound then .ok rest else .error .tag
      else (close style rest).map (t :: ·)

def normalForm (name : List Char) : Except Fault String :=
  (Console.Style.normalForm (String.ofList name)).mapError fun _ => .component

/-- The open tags after a tag, the last one first. -/
def afterTag (name : List Char) (parameters : Option (List Char)) (tags : List OpenTag) :
    Except Fault (List OpenTag) :=
  match name with
  | '/' :: name =>
      if name.all Text.isBlank then
        match tags with
        | t :: rest => if t.isSound then .ok rest else .error .tag
        | [] => .error .tag
      else do close (← normalForm (Text.strip Text.isBlank name)) tags
  | name => do return { style := ← normalForm name, parameters } :: tags

/-- A backslash before a bracket that is no tag. -/
def unguard : List Char → List Char
  | '\\' :: '[' :: rest => '[' :: unguard rest
  | c :: rest => c :: unguard rest
  | [] => []

/-- What shows of the pieces of a text. -/
def shown (tags : List OpenTag) : List Piece → Except Fault (List Char)
  | [] => .ok []
  | .text cs :: rest => do return Console.Emoji.replace (unguard cs) ++ (← shown tags rest)
  | .tag name parameters :: rest => do shown (← afterTag name parameters tags) rest

/-- Characters that would move the cursor. -/
def isMoving (c : Char) : Bool :=
  c == '\x07' || c == '\x08' || c == '\x0B' || c == '\x0C' || c == '\r'

/-- What shows of a text with tags. -/
def render (s : String) : Except Fault String :=
  (shown [] (pieces s.toList)).map fun cs => String.ofList (cs.filter fun c => !isMoving c)

/-! ## Escaping -/

/-- Double the backslashes before each tag and add one. -/
def escapeFrom : Nat → List Char → List Char
  | 0, cs => cs
  | _, [] => []
  | fuel + 1, cs =>
      let slashes := cs.takeWhile (· == '\\')
      let behind := cs.drop slashes.length
      match tag? behind with
      | some (inside, rest) =>
          slashes ++ slashes ++ '\\' :: '[' :: (inside ++ ']' :: escapeFrom fuel rest)
      | none =>
          match behind with
          | c :: rest => slashes ++ c :: escapeFrom fuel rest
          | [] => slashes

/-- A text in which no tag is read.  A single backslash at its end is doubled,
so that it does not guard what follows. -/
def escape (s : String) : String :=
  let cs := s.toList
  let escaped := escapeFrom (cs.length + 1) cs
  match escaped.reverse with
  | '\\' :: '\\' :: _ => String.ofList escaped
  | '\\' :: _ => String.ofList (escaped ++ ['\\'])
  | _ => String.ofList escaped

end SchemaDiagram.Markup
