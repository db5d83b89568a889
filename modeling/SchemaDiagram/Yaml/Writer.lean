/-
# SchemaDiagram.Yaml.Writer -- writing a value as YAML

Mappings and lists are written on lines of their own, the lists under a key not
indented; an empty list or mapping is written in brackets.  A text is written
plain where it reads back as itself, else in single quotes, and in double quotes
where only escapes can write it.

A text that runs past column 80 is folded: a single blank between two words is
replaced by a line end and the indentation of the text.

`TextForm` says which of the three ways a text allows.  A `Pen` is a text under
way: its lines so far and the column it has reached.
-/
import SchemaDiagram.Yaml.Cursor
import SchemaDiagram.Yaml.Scalar

namespace SchemaDiagram.Yaml

set_option autoImplicit false

/-! ## How a text may be written -/

/-- A break of a line, a carriage return alone not counting as one. -/
def splitsLine (c : Char) : Bool :=
  c == '\n' || c == '\u0085' || c == '\u2028' || c == '\u2029'

/-- A character that only an escape can write.  Characters above ASCII need one
unless `unicode` allows them. -/
def needsEscape (unicode : Bool) (c : Char) : Bool :=
  let n := c.toNat
  if n == 0xA || (0x20 ≤ n && n ≤ 0x7E) then false
  else if n == 0x85 || (0xA0 ≤ n && n ≤ 0xD7FF) ||
      (0xE000 ≤ n && n ≤ 0xFFFD && n != 0xFEFF) ||
      (0x10000 ≤ n && n < 0x10FFFF) then !unicode
  else true

/-- Whether a blank stands beside a break, in that order. -/
def hasPair (p q : Char → Bool) : List Char → Bool
  | a :: b :: rest => (p a && q b) || hasPair p q (b :: rest)
  | _ => false

/-- Marks that no plain text starts with. -/
def leadingMarks : List Char :=
  "#,[]\x7b\x7d&*!|>'\"%@".toList ++ [Char.ofNat 0x60]

/-- Whether a text starts like something other than a plain text. -/
def startsWithMark (cs : List Char) : Bool :=
  match cs with
  | c :: rest =>
      leadingMarks.contains c || ((c == '?' || c == ':' || c == '-') && endsWord rest.head?) ||
        ['-', '-', '-'].isPrefixOf cs || ['.', '.', '.'].isPrefixOf cs
  | [] => false

/-- Whether a colon before a gap or a number sign behind one stands in a text,
its first character apart. -/
def hasMark : List Char → Bool
  | a :: b :: rest =>
      (b == ':' && endsWord rest.head?) || (b == '#' && isGap a) || hasMark (b :: rest)
  | _ => false

def isSpace (c : Char) : Bool := c == ' '

def edgesBlank (cs : List Char) : Bool :=
  let blank (o : Option Char) : Bool := (o.map fun c => isSpace c || splitsLine c).getD false
  blank cs.head? || blank cs.getLast?

inductive TextForm where
  | plain
  | single
  | double
deriving DecidableEq, Repr

/-- Whether single quotes can hold a text. -/
def allowsSingle (unicode : Bool) (cs : List Char) : Bool :=
  !(hasPair splitsLine isSpace cs || hasPair isSpace splitsLine cs || cs.any (needsEscape unicode))

/-- Whether a text can be written as it is. -/
def allowsPlain (unicode : Bool) (cs : List Char) : Bool :=
  allowsSingle unicode cs && !edgesBlank cs && !cs.any splitsLine && !startsWithMark cs &&
    !hasMark cs

def textForm (unicode : Bool) (s : String) : TextForm :=
  let cs := s.toList
  if meaning s = .text && allowsPlain unicode cs then .plain
  else if allowsSingle unicode cs then .single
  else .double

/-! ## Writing a text -/

/-- What has been written, last character first, and the column reached. -/
structure Pen where
  written : List Char
  column : Nat

namespace Pen

def put (p : Pen) (cs : List Char) : Pen :=
  { written := cs.reverse ++ p.written, column := p.column + cs.length }

/-- A new line, indented. -/
def newLine (p : Pen) (indent : Nat) : Pen :=
  { written := List.replicate indent ' ' ++ '\n' :: p.written, column := indent }

end Pen

/-- The column that a text should not pass. -/
def bestWidth : Nat := 80

/-- The classes of characters that runs are made of. -/
inductive RunClass where
  | blanks
  | breaks
  | word
deriving DecidableEq, Repr

def RunClass.of (c : Char) : RunClass :=
  if isSpace c then .blanks else if splitsLine c then .breaks else .word

structure Run where
  kind : RunClass
  chars : List Char

/-- A text cut into runs of one class each. -/
def runsOf : List Char → List Run
  | [] => []
  | c :: rest =>
      match runsOf rest with
      | run :: more =>
          if run.kind = .of c then { run with chars := c :: run.chars } :: more
          else { kind := .of c, chars := [c] } :: run :: more
      | [] => [{ kind := .of c, chars := [c] }]

/-- Write blanks: one alone is replaced by a new line past the best width. -/
def writeBlanks (fold : Bool) (indent : Nat) (chars : List Char) (p : Pen) : Pen :=
  if fold && chars.length == 1 && bestWidth < p.column then p.newLine indent else p.put chars

/-- Write breaks: a line feed at their start is doubled, since one alone would
count as a blank. -/
def writeBreaks (indent : Nat) (chars : List Char) (p : Pen) : Pen :=
  let doubled := if chars.head? = some '\n' then '\n' :: chars else chars
  { written := List.replicate indent ' ' ++ doubled.reverse ++ p.written, column := indent }

/-- Write the runs of a text; `first` tells that none comes before them. -/
def writeRuns (fold : Bool) (indent : Nat) (first : Bool) : List Run → Pen → Pen
  | [], p => p
  | run :: rest, p =>
      let p :=
        match run.kind with
        | .blanks => writeBlanks (fold && !first && !rest.isEmpty) indent run.chars p
        | .breaks => writeBreaks indent run.chars p
        | .word => p.put run.chars
      writeRuns fold indent false rest p

/-! ## Double quotes -/

def escapeLetter? (c : Char) : Option Char :=
  match c with
  | '\x00' => some '0'
  | '\x07' => some 'a'
  | '\x08' => some 'b'
  | '\t' => some 't'
  | '\n' => some 'n'
  | '\x0B' => some 'v'
  | '\x0C' => some 'f'
  | '\r' => some 'r'
  | '\x1B' => some 'e'
  | '"' => some '"'
  | '\\' => some '\\'
  | '\u0085' => some 'N'
  | '\u00A0' => some '_'
  | '\u2028' => some 'L'
  | '\u2029' => some 'P'
  | _ => none

def escape (c : Char) : List Char :=
  match escapeLetter? c with
  | some letter => ['\\', letter]
  | none =>
      if c.toNat ≤ 0xFF then '\\' :: 'x' :: Text.upperHexDigits 2 c.toNat
      else if c.toNat ≤ 0xFFFF then '\\' :: 'u' :: Text.upperHexDigits 4 c.toNat
      else '\\' :: 'U' :: Text.upperHexDigits 8 c.toNat

/-- Whether a character stands for itself between double quotes. -/
def isVerbatim (unicode : Bool) (c : Char) : Bool :=
  let n := c.toNat
  c != '"' && c != '\\' &&
    ((0x20 ≤ n && n ≤ 0x7E) ||
      (unicode && c != '\uFEFF' && c != '\u2028' && c != '\u2029' &&
        ((0xA0 ≤ n && n ≤ 0xD7FF) || (0xE000 ≤ n && n ≤ 0xFFFD))))

/-- A new line inside double quotes, hidden by a backslash; a blank at its start
needs another one. -/
def foldDouble (indent : Nat) (next : Option Char) (p : Pen) : Pen :=
  let p := (p.put ['\\']).newLine indent
  if next = some ' ' then p.put ['\\'] else p

/-- Write the characters between double quotes; `run` are those not yet written,
last one first. -/
def writeDouble (unicode fold : Bool) (indent : Nat) (first : Bool) (run : List Char) :
    List Char → Pen → Pen
  | [], p => p.put run.reverse
  | c :: rest, p =>
      let mayFold := fold && !first && !rest.isEmpty
      if isVerbatim unicode c then
        if mayFold && (c == ' ' || run.isEmpty) && bestWidth < p.column + run.length then
          writeDouble unicode fold indent false [c] rest
            (foldDouble indent (some c) (p.put run.reverse))
        else writeDouble unicode fold indent false (c :: run) rest p
      else
        let p := (p.put run.reverse).put (escape c)
        let p := if mayFold && bestWidth < p.column - 1 then foldDouble indent rest.head? p else p
        writeDouble unicode fold indent false [] rest p

/-! ## Values -/

/-- Write a text, with the column of its continuation lines. -/
def writeText (unicode fold : Bool) (indent : Nat) (s : String) (p : Pen) : Pen :=
  let cs := s.toList
  match textForm unicode s with
  | .plain => writeRuns fold indent true (runsOf cs) p
  | .single =>
      let p := p.put ['\'']
      let doubled (run : Run) : Run :=
        { run with chars := run.chars.flatMap fun c => if c = '\'' then ['\'', '\''] else [c] }
      (writeRuns fold indent true ((runsOf cs).map doubled) p).put ['\'']
  | .double => (writeDouble unicode fold indent true [] cs (p.put ['"'])).put ['"']

/-- Write a scalar; bytes are written as a text of their characters.  `fold` lets a
text go on in the next line. -/
def writeScalar (unicode fold : Bool) (indent : Nat) (s : Scalar) (p : Pen) : Pen :=
  let word (s : String) := p.put s.toList
  match s with
  | .null => word "null"
  | .bool b => word (if b then "true" else "false")
  | .int n => word (Text.decimalInt n)
  | .real x => word x.render
  | .stamp s => word s.text
  | .text s => writeText unicode fold indent s p
  | .bytes content =>
      writeText unicode fold indent
        (String.ofList (content.map fun b => Char.ofNat b.toNat)) p

/-- What stands for a value on the line it starts on. -/
def writeInline (unicode : Bool) (indent : Nat) (v : Value) (p : Pen) : Pen :=
  match v with
  | .scalar s => writeScalar unicode true indent s p
  | .list _ => p.put ['[', ']']
  | .object _ => p.put ['\x7B', '\x7D']
  | _ => p.put "null".toList

mutual

/-- The value of a key that stands at column `indent`. -/
def writeUnderKey (unicode : Bool) (indent : Nat) (p : Pen) : Value → Pen
  | .list (item :: items) => writeItems unicode indent false p (item :: items)
  | .object (m :: members) => writeMembers unicode (indent + 2) false p (m :: members)
  | v => writeInline unicode (indent + 2) v (p.put [' '])

/-- The item of a list whose dash stands at column `indent`. -/
def writeBehindDash (unicode : Bool) (indent : Nat) (p : Pen) : Value → Pen
  | .list (item :: items) => writeItems unicode (indent + 2) true (p.put [' ']) (item :: items)
  | .object (m :: members) => writeMembers unicode (indent + 2) true (p.put [' ']) (m :: members)
  | v => writeInline unicode (indent + 2) v (p.put [' '])

/-- Items from column `indent` on; `here` tells that the first one starts where
the pen stands. -/
def writeItems (unicode : Bool) (indent : Nat) (here : Bool) (p : Pen) : List Value → Pen
  | [] => p
  | v :: rest =>
      let p := (if here then p else p.newLine indent).put ['-']
      writeItems unicode indent false (writeBehindDash unicode indent p v) rest

def writeMembers (unicode : Bool) (indent : Nat) (here : Bool) (p : Pen) : Members → Pen
  | [] => p
  | (key, v) :: rest =>
      let p := if here then p else p.newLine indent
      let p := (writeScalar unicode false indent key p).put [':']
      writeMembers unicode indent false (writeUnderKey unicode indent p v) rest

end

/-- The text of a value.  `unicode` lets characters above ASCII stand for
themselves. -/
def render (unicode : Bool) (v : Value) : String :=
  let start : Pen := { written := [], column := 0 }
  let p :=
    match v with
    | .list (item :: items) => writeItems unicode 0 true start (item :: items)
    | .object (m :: members) => writeMembers unicode 0 true start (m :: members)
    | v => writeInline unicode 0 v start
  String.ofList ('\n' :: p.written).reverse

end SchemaDiagram.Yaml
