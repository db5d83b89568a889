/-
# SchemaDiagram.Yaml.Token -- the tokens of a YAML text

Outside brackets, structure is told by indentation: where a line is indented
deeper than the block around it a new block starts, and where it is indented less
blocks end.  A key is recognised only when its colon is reached, so the place
before each text that may turn out to be a key is remembered, one for each depth
of brackets, and the key token is put in there later.  A key must stand on one
line with its colon and be no longer than 1024 characters.

Where no token can be read the last one tells why; those before it stand.  Halves of
pairs are read as the character `half`.
-/
import SchemaDiagram.Yaml.Text

namespace SchemaDiagram.Yaml

set_option autoImplicit false

inductive Token where
  /-- A directive for the version of the notation. -/
  | version (major : Nat)
  /-- A directive for what a handle of tags stands for. -/
  | handle (name stem : String)
  | directive
  | documentStart
  | documentEnd
  | blockSequenceStart
  | blockMappingStart
  | blockEnd
  | flowSequenceStart
  | flowSequenceEnd
  | flowMappingStart
  | flowMappingEnd
  | flowEntry
  | blockEntry
  | key
  | value
  | alias (name : String)
  | anchor (name : String)
  | tag (handle : Option String) (suffix : String)
  /-- A text; `plain` if it is written without quotes and block marks. -/
  | scalar (plain : Bool) (text : String)
  /-- Why there are no more tokens. -/
  | fault (f : ReadFault)
deriving DecidableEq, Repr, Inhabited

/-- A place where a key may start. -/
structure KeyPlace where
  /-- The number of tokens before it. -/
  before : Nat
  /-- Nothing but a key may stand here. -/
  required : Bool
  line : Nat
  column : Nat
  index : Nat

structure Scanner where
  cursor : Cursor
  /-- The tokens so far, the last one first. -/
  tokens : List Token := []
  count : Nat := 0
  /-- The column of the innermost block, -1 outside all of them. -/
  indent : Int := -1
  outer : List Int := []
  /-- The key place outside brackets. -/
  blockPlace : Option KeyPlace := none
  /-- The key places inside the open brackets, the innermost first. -/
  flowPlaces : List (Option KeyPlace) := []
  keyAllowed : Bool := true

namespace Scanner

/-! ## Small steps -/

def inFlow (s : Scanner) : Bool :=
  !s.flowPlaces.isEmpty

def column (s : Scanner) : Int :=
  s.cursor.column

def push (s : Scanner) (t : Token) : Scanner :=
  { s with tokens := t :: s.tokens, count := s.count + 1 }

/-- Put a token behind the first `before` ones. -/
def insert (s : Scanner) (before : Nat) (t : Token) : Scanner :=
  let behind := s.count - before
  { s with tokens := s.tokens.take behind ++ t :: s.tokens.drop behind, count := s.count + 1 }

/-- Move over `n` characters and add a token. -/
def pass (s : Scanner) (n : Nat) (t : Token) : Scanner :=
  { s with cursor := s.cursor.forwardBy n }.push t

/-- End the blocks that are indented deeper than `column`. -/
def unwind (column : Int) : List Int → Scanner → Scanner
  | [], s => s
  | i :: outer, s =>
      if column < s.indent then unwind column outer { s.push .blockEnd with indent := i, outer }
      else s

def unwindTo (s : Scanner) (column : Int) : Scanner :=
  if s.inFlow then s else unwind column s.outer s

/-- Start a block at `column` unless one of that depth is open. -/
def openBlock (s : Scanner) (column : Int) (before : Nat) (t : Token) : Scanner :=
  if s.indent < column then
    { s.insert before t with indent := column, outer := s.indent :: s.outer }
  else s

/-! ## Key places

Only outside brackets may a key be required. -/

/-- The key place of this depth of brackets. -/
def place (s : Scanner) : Option KeyPlace :=
  match s.flowPlaces with
  | place :: _ => place
  | [] => s.blockPlace

def withPlace (s : Scanner) (place : Option KeyPlace) : Scanner :=
  match s.flowPlaces with
  | _ :: outer => { s with flowPlaces := place :: outer }
  | [] => { s with blockPlace := place }

/-- Forget the key place of this depth; `none` if a key is missing there. -/
def dropPlace (s : Scanner) : Option Scanner :=
  if s.place.any (·.required) then none else some (s.withPlace none)

/-- A key may start here, if one is allowed at all. -/
def savePlace (s : Scanner) : Option Scanner :=
  if s.keyAllowed then
    s.dropPlace.map fun s =>
      s.withPlace (some
        { before := s.count
          required := !s.inFlow && s.indent = s.column
          line := s.cursor.line
          column := s.cursor.column
          index := s.cursor.index })
  else some s

/-- Whether a key place is too far back for a colon here. -/
def isStale (s : Scanner) (place : KeyPlace) : Bool :=
  place.line != s.cursor.line || 1024 < s.cursor.index - place.index

/-- Forget the key place outside brackets if it is out of reach; `none` if a key is
missing there. -/
def dropStale (s : Scanner) : Option Scanner :=
  match s.blockPlace with
  | some place =>
      if s.isStale place then
        if place.required then none else some { s with blockPlace := none }
      else some s
  | none => some s

/-! ## Between tokens -/

/-- Skip blanks, comments and line ends.  Outside brackets a new line allows a
key. -/
def skipGaps : Nat → Scanner → Scanner
  | 0, s => s
  | fuel + 1, s =>
      let c := s.cursor.skip (· == ' ')
      let c := if c.peek = some '#' then c.toLineEnd else c
      match c.lineBreak? with
      | some (_, c) => skipGaps fuel { s with cursor := c, keyAllowed := s.keyAllowed || !s.inFlow }
      | none => { s with cursor := c }

/-! ## Tokens one by one -/

def documentMark (s : Scanner) (t : Token) : Option Scanner :=
  (s.unwindTo (-1)).dropPlace.map fun s => { s.pass 3 t with keyAllowed := false }

def flowStart (s : Scanner) (t : Token) : Option Scanner :=
  s.savePlace.map fun s =>
    { s.pass 1 t with flowPlaces := none :: s.flowPlaces, keyAllowed := true }

/-- Brackets that close without having been opened are an error. -/
def flowEnd (s : Scanner) (t : Token) : Option Scanner :=
  if s.inFlow then
    s.dropPlace.map fun s =>
      { s.pass 1 t with flowPlaces := s.flowPlaces.tail, keyAllowed := false }
  else none

def flowEntry (s : Scanner) : Option Scanner :=
  s.dropPlace.map fun s => { s.pass 1 .flowEntry with keyAllowed := true }

def blockEntry (s : Scanner) : Option Scanner :=
  if s.inFlow || s.keyAllowed then
    let s := if s.inFlow then s else s.openBlock s.column s.count .blockSequenceStart
    s.dropPlace.map fun s => { s.pass 1 .blockEntry with keyAllowed := true }
  else none

/-- A question mark before a key. -/
def keyMark (s : Scanner) : Option Scanner :=
  if s.inFlow || s.keyAllowed then
    let s := if s.inFlow then s else s.openBlock s.column s.count .blockMappingStart
    s.dropPlace.map fun s => { s.pass 1 .key with keyAllowed := !s.inFlow }
  else none

/-- A colon: it makes a key of what stands at the key place, if there is one in
reach. -/
def valueMark (s : Scanner) : Option Scanner :=
  match s.place.filter fun place => !s.isStale place with
  | some place =>
      let s := (s.withPlace none).insert place.before .key
      let s := if s.inFlow then s else s.openBlock place.column place.before .blockMappingStart
      some { s.pass 1 .value with keyAllowed := false }
  | none =>
      if s.inFlow || s.keyAllowed then
        let s := if s.inFlow then s else s.openBlock s.column s.count .blockMappingStart
        s.dropPlace.map fun s => { s.pass 1 .value with keyAllowed := !s.inFlow }
      else none

def isNameChar (c : Char) : Bool :=
  c.isAlphanum || c == '-' || c == '_'

/-- The name of an anchor or an alias, behind its mark. -/
def named (s : Scanner) (t : String → Token) : Option Scanner :=
  s.savePlace.bind fun s =>
    let c := s.cursor.forward
    let name := c.rest.takeWhile isNameChar
    let c := c.forwardBy name.length
    let ends := match c.peek with
      | none => true
      | some ch => isGap ch || "?:,]\x7d%@".contains ch || ch == Char.ofNat 0x60
    if name.isEmpty || !ends then none
    else some { { s with cursor := c }.push (t (String.ofList name)) with keyAllowed := false }

/-! ## Tags and directives -/

def isUriChar (c : Char) : Bool :=
  c.isAlphanum || "-;/?:@&=+$,_.!~*'()[]%".contains c

/-- Bytes written by number behind percent signs, and the rest. -/
def uriBytes : List Char → Option (List UInt8 × List Char)
  | '%' :: a :: b :: rest =>
      if Text.isHexDigit a && Text.isHexDigit b then
        (uriBytes rest).map fun (bytes, rest) =>
          (UInt8.ofNat (Text.ofDigits 16 [a, b]) :: bytes, rest)
      else none
  | '%' :: _ => none
  | cs => some ([], cs)

/-- The text of an address, its bytes by number decoded.  Each step takes a
character at least. -/
def decodeUri : Nat → List Char → Option (List Char)
  | 0, _ => some []
  | _, [] => some []
  | fuel + 1, '%' :: rest => do
      let (bytes, rest) ← uriBytes ('%' :: rest)
      let run ← String.fromUTF8? ⟨bytes.toArray⟩
      (decodeUri fuel rest).map (run.toList ++ ·)
  | fuel + 1, c :: rest => (decodeUri fuel rest).map (c :: ·)

/-- The address ahead, and the cursor behind it. -/
def uriAt (c : Cursor) : Option (String × Cursor) := do
  let uri := c.rest.takeWhile isUriChar
  if uri.isEmpty then none
  let text ← decodeUri uri.length uri
  some (String.ofList text, c.forwardBy uri.length)

/-- The handle ahead: `!` alone, or a name between two of them. -/
def handleAt (c : Cursor) : Option (String × Cursor) :=
  match c.rest with
  | '!' :: ' ' :: _ => some ("!", c.forward)
  | '!' :: rest =>
      let name := rest.takeWhile isNameChar
      if rest[name.length]? = some '!' then
        some ("!" ++ String.ofList name ++ "!", c.forwardBy (name.length + 2))
      else none
  | _ => none

/-- Whether a directive or a tag ends here. -/
def endsName (o : Option Char) : Bool :=
  o == some ' ' || endsLine o

def numberAt (c : Cursor) : Option (Nat × Cursor) :=
  let digits := c.rest.takeWhile Char.isDigit
  if digits.isEmpty then none else some (Text.ofDigits 10 digits, c.forwardBy digits.length)

/-- The version behind the name of its directive. -/
def versionAt (c : Cursor) : Option (Token × Cursor) := do
  let (major, c) ← numberAt (c.skip (· == ' '))
  if c.peek != some '.' then none
  let (_, c) ← numberAt c.forward
  if endsName c.peek then some (.version major, c) else none

/-- A handle and what it stands for, behind the name of their directive. -/
def handleDirectiveAt (c : Cursor) : Option (Token × Cursor) := do
  let (name, c) ← handleAt (c.skip (· == ' '))
  if c.peek != some ' ' then none
  let (stem, c) ← uriAt (c.skip (· == ' '))
  if endsName c.peek then some (.handle name stem, c) else none

/-- The directive behind a percent sign.  One with another name may say
anything. -/
def directiveAt (c : Cursor) : Option (Token × Cursor) := do
  let name := c.rest.takeWhile isNameChar
  let c := c.forwardBy name.length
  if name.isEmpty || !endsName c.peek then none
  let (t, c) ←
    match String.ofList name with
    | "YAML" => versionAt c
    | "TAG" => handleDirectiveAt c
    | _ => some (.directive, c.toLineEnd)
  let c := c.skip (· == ' ')
  let c := if c.peek = some '#' then c.toLineEnd else c
  if endsLine c.peek then some (t, c) else none

/-- A line that starts with a percent sign. -/
def directive (s : Scanner) : Option Scanner :=
  (s.unwindTo (-1)).dropPlace.bind fun s =>
    (directiveAt s.cursor.forward).map fun (t, c) =>
      { { s with cursor := c }.push t with keyAllowed := false }

/-- A tag: `!<…>`, `!` alone, or a handle and a suffix. -/
def tagAt (c : Cursor) : Option (Token × Cursor) :=
  match c.rest with
  | '!' :: '<' :: _ => do
      let (uri, c) ← uriAt (c.forwardBy 2)
      if c.peek = some '>' then some (.tag none uri, c.forward) else none
  | '!' :: rest =>
      if endsWord rest.head? then some (.tag none "!", c.forward)
      else do
        let word := rest.takeWhile fun ch => !endsName (some ch)
        let (name, c) ← if word.contains '!' then handleAt c else some ("!", c.forward)
        let (uri, c) ← uriAt c
        some (.tag (some name) uri, c)
  | _ => none

def tag (s : Scanner) : Option Scanner :=
  s.savePlace.bind fun s =>
    (tagAt s.cursor).bind fun (t, c) =>
      if endsName c.peek then some { { s with cursor := c }.push t with keyAllowed := false }
      else none

def block (s : Scanner) (folded : Bool) : Option Scanner :=
  s.dropPlace.bind fun s =>
    (blockText folded s.indent s.cursor.forward).map fun (text, c) =>
      { { s with cursor := c }.push (.scalar false (String.ofList text)) with keyAllowed := true }

def quoted (s : Scanner) (half quote : Char) : Except ReadFault Scanner := do
  let s ← orMalformed s.savePlace
  let c := s.cursor.forward
  let (text, c) ← quotedText half quote (c.left + 1) c
  let token := Token.scalar false (String.ofList text)
  return { { s with cursor := c }.push token with keyAllowed := false }

/-- Whether a plain text may start with `c`, with `next` behind it. -/
def startsPlain (inFlow : Bool) (c : Char) (next : Option Char) : Bool :=
  !(isGap c || "-?:,[]\x7b\x7d#&*!|>'\"%@".contains c || c == Char.ofNat 0x60) ||
    (!endsWord next && (c == '-' || (!inFlow && (c == '?' || c == ':'))))

def plain (s : Scanner) : Option Scanner :=
  s.savePlace.map fun s =>
    let read := plainText s.inFlow (s.indent + 1) (s.cursor.left + 1) s.cursor
    { { s with cursor := read.cursor }.push (.scalar true (String.ofList read.text)) with
      keyAllowed := read.crosses }

/-- The token that starts with `c`, quotes apart. -/
def next? (s : Scanner) (c : Char) : Option Scanner :=
  let after := s.cursor.peekAt 1
  if s.cursor.column = 0 && c = '%' then s.directive
  else if s.cursor.column = 0 && s.cursor.atMark '-' then s.documentMark .documentStart
  else if s.cursor.column = 0 && s.cursor.atMark '.' then s.documentMark .documentEnd
  else if c = '[' then s.flowStart .flowSequenceStart
  else if c = '\x7B' then s.flowStart .flowMappingStart
  else if c = ']' then s.flowEnd .flowSequenceEnd
  else if c = '\x7D' then s.flowEnd .flowMappingEnd
  else if c = ',' then s.flowEntry
  else if c = '-' && endsWord after then s.blockEntry
  else if c = '?' && (s.inFlow || endsWord after) then s.keyMark
  else if c = ':' && (s.inFlow || endsWord after) then s.valueMark
  else if c = '*' then s.named .alias
  else if c = '&' then s.named .anchor
  else if c = '!' then s.tag
  else if c = '|' && !s.inFlow then s.block false
  else if c = '>' && !s.inFlow then s.block true
  else if startsPlain s.inFlow c after then s.plain
  else none

def next (s : Scanner) (half c : Char) : Except ReadFault Scanner :=
  if c = '\'' || c = '"' then s.quoted half c else orMalformed (s.next? c)

/-! ## All tokens -/

/-- The tokens so far, and why there are no more. -/
def stop (s : Scanner) (f : ReadFault) : List Token :=
  (Token.fault f :: s.tokens).reverse

/-- The tokens at the end of the text. -/
def finish (s : Scanner) : List Token :=
  match (s.unwindTo (-1)).dropPlace with
  | some s => s.tokens.reverse
  | none => s.stop .malformed

/-- All tokens from here on.  Each step takes a character at least. -/
def run (half : Char) : Nat → Scanner → List Token
  | 0, s => s.stop .malformed
  | fuel + 1, s =>
      match (skipGaps s.cursor.left s).dropStale with
      | none => s.stop .malformed
      | some s =>
          let s := s.unwindTo s.column
          match s.cursor.peek with
          | none => s.finish
          | some c =>
              match s.next half c with
              | .ok s => run half fuel s
              | .error f => s.stop f

end Scanner

/-- A text without a byte-order mark at its start. -/
def afterMark (c : Cursor) : Cursor :=
  if c.peek = some '\uFEFF' then c.forward else c

/-- The tokens of a text. -/
def tokensOf (half : Char) (s : String) : List Token :=
  let cs := s.toList
  if cs.all isAllowed then
    Scanner.run half (cs.length + 1) { cursor := afterMark (.start cs) }
  else [.fault .malformed]

end SchemaDiagram.Yaml
