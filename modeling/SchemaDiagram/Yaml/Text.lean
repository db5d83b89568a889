/-
# SchemaDiagram.Yaml.Text -- the texts between the marks of YAML

Each function reads one text and returns it with the cursor behind it: plain
text, text between quotes, and literal and folded blocks.  Inside a text a
single line break counts as a blank, and of several all but the first are kept.

Every step of a loop takes at least one character, so the number of characters
ahead is fuel enough.

An escape by number that is half of a pair is no character.  In its place the readers
put the character `half` that they are given, also where the other half stands behind it.
-/
import SchemaDiagram.Data.ReadFault
import SchemaDiagram.Yaml.Cursor

namespace SchemaDiagram.Yaml

set_option autoImplicit false

/-! ## Breaks inside a text -/

/-- What a run of breaks leaves of itself: one break alone becomes a blank, of
several the first is dropped; a first break that is no plain one is kept. -/
def foldBreaks (first : Char) (more : List Char) : List Char :=
  if first != '\n' then first :: more
  else if more.isEmpty then [' ']
  else more

/-! ## Plain text -/

/-- Whether a plain text ends before `c`, with `next` behind it. -/
def endsPlain (inFlow : Bool) (c : Char) (next : Option Char) : Bool :=
  let beforeMark := (next.map fun n => ",[]\x7b\x7d".contains n).getD false
  isGap c ||
    (c == ':' && (endsWord next || (inFlow && beforeMark))) ||
    (inFlow && ",?[]\x7b\x7d".contains c)

/-- The length of the plain text ahead, up to a gap or a mark. -/
def plainLength (inFlow : Bool) : List Char → Nat
  | [] => 0
  | c :: rest => if endsPlain inFlow c rest.head? then 0 else 1 + plainLength inFlow rest

/-- The breaks ahead, blanks between them skipped; `none` if a document mark
follows one of them. -/
def plainBreaks : Nat → Cursor → Option (List Char) × Cursor
  | 0, c => (some [], c)
  | fuel + 1, c =>
      match c.peek with
      | some ' ' => plainBreaks fuel c.forward
      | _ =>
          match c.lineBreak? with
          | none => (some [], c)
          | some (b, c) =>
              if c.atDocumentMark then (none, c)
              else
                let (more, c) := plainBreaks fuel c
                (more.map (b :: ·), c)

structure PlainGap where
  text : List Char
  /-- Whether the gap goes over a line end. -/
  crosses : Bool
  cursor : Cursor

/-- The gap behind a run of plain text. -/
def plainGap (c : Cursor) : PlainGap :=
  let blanks := c.rest.takeWhile (· == ' ')
  let c := c.forwardBy blanks.length
  match c.lineBreak? with
  | none => { text := blanks, crosses := false, cursor := c }
  | some (first, c) =>
      if c.atDocumentMark then { text := [], crosses := true, cursor := c }
      else
        match plainBreaks c.left c with
        | (some more, c) => { text := foldBreaks first more, crosses := true, cursor := c }
        | (none, c) => { text := [], crosses := true, cursor := c }

structure PlainText where
  text : List Char
  /-- Whether the gap behind the text goes over a line end. -/
  crosses : Bool
  cursor : Cursor

/-- The plain text ahead.  Outside brackets it ends on a line that is indented
less than `indent`. -/
def plainText (inFlow : Bool) (indent : Int) : Nat → Cursor → PlainText
  | 0, c => { text := [], crosses := false, cursor := c }
  | fuel + 1, c =>
      let length := plainLength inFlow c.rest
      if c.peek = some '#' || length = 0 then { text := [], crosses := false, cursor := c }
      else
        let run := c.rest.take length
        let gap := plainGap (c.forwardBy length)
        if gap.text.isEmpty || gap.cursor.peek = some '#' ||
            (!inFlow && (gap.cursor.column : Int) < indent) then
          { text := run, crosses := gap.crosses, cursor := gap.cursor }
        else
          let more := plainText inFlow indent fuel gap.cursor
          if more.text.isEmpty then { text := run, crosses := gap.crosses, cursor := more.cursor }
          else { more with text := run ++ gap.text ++ more.text }

/-! ## Quoted text -/

def simpleEscape? : Char → Option Char
  | '0' => some '\x00'
  | 'a' => some '\x07'
  | 'b' => some '\x08'
  | 't' => some '\t'
  | '\t' => some '\t'
  | 'n' => some '\n'
  | 'v' => some '\x0B'
  | 'f' => some '\x0C'
  | 'r' => some '\r'
  | 'e' => some '\x1B'
  | ' ' => some ' '
  | '"' => some '"'
  | '\\' => some '\\'
  | '/' => some '/'
  | 'N' => some '\u0085'
  | '_' => some '\u00A0'
  | 'L' => some '\u2028'
  | 'P' => some '\u2029'
  | _ => none

/-- The number of digits of an escape by number. -/
def escapeWidth? : Char → Option Nat
  | 'x' => some 2
  | 'u' => some 4
  | 'U' => some 8
  | _ => none

/-- The breaks ahead, blanks and tabs skipped; a document mark among them is an
error. -/
def quotedBreaks : Nat → Cursor → Option (List Char × Cursor)
  | 0, c => some ([], c)
  | fuel + 1, c =>
      if c.atDocumentMark then none
      else
        let c := c.skip fun ch => ch == ' ' || ch == '\t'
        match c.lineBreak? with
        | none => some ([], c)
        | some (b, c) => (quotedBreaks fuel c).map fun (more, c) => (b :: more, c)

def isHalf (n : Nat) : Bool := 0xD800 ≤ n && n < 0xE000

/-- What an escape stands for, the cursor being behind the backslash. -/
def quotedEscape (half : Char) (c : Cursor) : Except ReadFault (List Char × Cursor) :=
  match c.peek with
  | none => .error .malformed
  | some ch =>
      match simpleEscape? ch, escapeWidth? ch with
      | some e, _ => .ok ([e], c.forward)
      | none, some width =>
          let digits := (c.rest.drop 1).take width
          let n := Text.ofDigits 16 digits
          if digits.length != width || !digits.all Text.isHexDigit then .error .malformed
          else if 0x10FFFF < n then .error (.literal .codePoint)
          else .ok ([if isHalf n then half else Char.ofNat n], c.forwardBy (width + 1))
      | none, none =>
          match c.lineBreak? with
          | some (_, c) => orMalformed (quotedBreaks c.left c)
          | none => .error .malformed

/-- The gap between two runs of quoted text. -/
def quotedGap (c : Cursor) : Option (List Char × Cursor) :=
  let blanks := c.rest.takeWhile fun ch => ch == ' ' || ch == '\t'
  let c := c.forwardBy blanks.length
  match c.lineBreak? with
  | some (first, c) =>
      (quotedBreaks c.left c).map fun (more, c) => (foldBreaks first more, c)
  | none => if c.rest.isEmpty then none else some (blanks, c)

/-- The text up to the closing quote, and the cursor behind that. -/
def quotedText (half quote : Char) : Nat → Cursor → Except ReadFault (List Char × Cursor)
  | 0, _ => .error .malformed
  | fuel + 1, c =>
      let onward (run : List Char) (c : Cursor) : Except ReadFault (List Char × Cursor) :=
        (quotedText half quote fuel c).map fun (more, c) => (run ++ more, c)
      match c.peek with
      | none => .error .malformed
      | some ch =>
          if ch = quote then
            if quote = '\'' && c.peekAt 1 = some '\'' then onward ['\''] (c.forwardBy 2)
            else .ok ([], c.forward)
          else if ch = '\\' && quote = '"' then do
            let (run, c) ← quotedEscape half c.forward
            onward run c
          else if isGap ch then do
            let (run, c) ← orMalformed (quotedGap c)
            onward run c
          else onward [ch] c.forward

/-! ## Blocks -/

inductive Chomping where
  | strip
  | clip
  | keep
deriving DecidableEq

structure BlockHeader where
  chomping : Chomping := .clip
  /-- The indentation, if it is given. -/
  indent : Option Nat := none

/-- The marks behind `|` or `>`: a digit and a sign, in either order. -/
def blockHeader (c : Cursor) : Option (BlockHeader × Cursor) :=
  let sign? : Option Char → Option Chomping
    | some '+' => some .keep
    | some '-' => some .strip
    | _ => none
  let digit? : Option Char → Option Nat
    | some d => if d.isDigit then some (Text.digitValue d) else none
    | none => none
  let (header, c) : BlockHeader × Cursor :=
    match sign? c.peek, digit? c.peek with
    | some chomping, _ =>
        match digit? (c.peekAt 1) with
        | some n => ({ chomping, indent := some n }, c.forwardBy 2)
        | none => ({ chomping }, c.forward)
    | none, some n =>
        match sign? (c.peekAt 1) with
        | some chomping => ({ chomping, indent := some n }, c.forwardBy 2)
        | none => ({ indent := some n }, c.forward)
    | none, none => ({}, c)
  if header.indent = some 0 || !(c.peek = some ' ' || endsLine c.peek) then none
  else
    let c := c.skip (· == ' ')
    let c := if c.peek = some '#' then c.toLineEnd else c
    if !endsLine c.peek then none
    else
      match c.lineBreak? with
      | some (_, c) => some (header, c)
      | none => some (header, c)

/-- The breaks before the first line of a block, and the greatest column among
the blank lines. -/
def blockStart : Nat → Nat → Cursor → List Char × Nat × Cursor
  | 0, widest, c => ([], widest, c)
  | fuel + 1, widest, c =>
      if c.peek = some ' ' then
        let c := c.forward
        blockStart fuel (max widest c.column) c
      else
        match c.lineBreak? with
        | none => ([], widest, c)
        | some (b, c) =>
            let (more, widest, c) := blockStart fuel widest c
            (b :: more, widest, c)

/-- The breaks of the empty lines ahead, indented up to `indent`. -/
def blockBreaks (indent : Nat) : Nat → Cursor → List Char × Cursor
  | 0, c => ([], c.skipBlanksTo indent)
  | fuel + 1, c =>
      let c := c.skipBlanksTo indent
      match c.lineBreak? with
      | none => ([], c)
      | some (b, c) =>
          let (more, c) := blockBreaks indent fuel c
          (b :: more, c)

/-- How the text of a block ends. -/
def chomp (chomping : Chomping) (last breaks : List Char) : List Char :=
  match chomping with
  | .strip => []
  | .clip => last
  | .keep => last ++ breaks

/-- The lines of a block from the cursor on; `breaks` are those before it. -/
def blockLines (folded : Bool) (chomping : Chomping) (indent : Nat) :
    Nat → List Char → Cursor → List Char × Cursor
  | 0, _, c => ([], c)
  | fuel + 1, breaks, c =>
      if c.column = indent && !c.rest.isEmpty then
        let startsText (o : Option Char) : Bool := !(o = some ' ' || o = some '\t')
        let leads := startsText c.peek
        let line := c.rest.takeWhile fun ch => !isBreak ch
        let c := c.forwardBy line.length
        let (last, c) :=
          match c.lineBreak? with
          | some (b, c) => ([b], c)
          | none => ([], c)
        let (next, c) := blockBreaks indent c.left c
        if c.column = indent && !c.rest.isEmpty then
          let between :=
            if folded && last == ['\n'] && leads && startsText c.peek then
              if next.isEmpty then [' '] else []
            else last
          let (more, c) := blockLines folded chomping indent fuel next c
          (breaks ++ line ++ between ++ more, c)
        else (breaks ++ line ++ chomp chomping last next, c)
      else (chomp chomping [] breaks, c)

/-- The text of a block inside a node that is indented by `outer`; the cursor is
behind `|` or `>`. -/
def blockText (folded : Bool) (outer : Int) (c : Cursor) : Option (List Char × Cursor) :=
  (blockHeader c).map fun (header, c) =>
    let least := (max 1 (outer + 1)).toNat
    let (breaks, indent, c) :=
      match header.indent with
      | some n =>
          let indent := least + n - 1
          let (breaks, c) := blockBreaks indent c.left c
          (breaks, indent, c)
      | none =>
          let (breaks, widest, c) := blockStart c.left 0 c
          (breaks, max least widest, c)
    blockLines folded header.chomping indent (c.left + 1) breaks c

end SchemaDiagram.Yaml
