/-
# SchemaDiagram.Json.Writer -- JSON text of a value

The text is ASCII: other characters are written as 16-bit units, a pair of them
above the basic plane.  `compact` puts all on one line; `indented` gives each
item and member a line of its own, two blanks deeper than its container.
-/
import SchemaDiagram.Data.Value
import SchemaDiagram.Text.Digits
import SchemaDiagram.Text.Search

namespace SchemaDiagram.Json

set_option autoImplicit false

open Text (join)

/-! ## Texts -/

def unitEscape (n : Nat) : List Char :=
  '\\' :: 'u' :: Text.hexDigits 4 n

def escapeChar (c : Char) : List Char :=
  if c = '"' then ['\\', '"']
  else if c = '\\' then ['\\', '\\']
  else if c = '\n' then ['\\', 'n']
  else if c = '\r' then ['\\', 'r']
  else if c = '\t' then ['\\', 't']
  else if c = '\x08' then ['\\', 'b']
  else if c = '\x0C' then ['\\', 'f']
  else if 0x20 ≤ c.toNat && c.toNat < 0x7F then [c]
  else if c.toNat < 0x10000 then unitEscape c.toNat
  else
    let above := c.toNat - 0x10000
    unitEscape (0xD800 + above / 0x400) ++ unitEscape (0xDC00 + above % 0x400)

def quote (s : String) : String :=
  String.ofList ('"' :: (s.toList.flatMap escapeChar ++ ['"']))

/-- A finite number as it is written everywhere, the other three by name. -/
def number (x : Binary64) : String :=
  match x with
  | .nan => "NaN"
  | .infinite negative => if negative then "-Infinity" else "Infinity"
  | _ => x.render

/-! ## On one line -/

/-- A scalar.  Bytes and stamps, which JSON does not have, become texts. -/
def scalar : Scalar → String
  | .null => "null"
  | .bool b => if b then "true" else "false"
  | .int n => Text.decimalInt n
  | .real x => number x
  | .text s => quote s
  | .bytes content => quote (String.ofList (content.map fun b => Char.ofNat b.toNat))
  | .stamp s => quote s.text

/-- A key: other scalars than texts are put between quotes. -/
def key : Scalar → String
  | .null => "\"null\""
  | .bool b => "\"" ++ scalar (.bool b) ++ "\""
  | .int n => "\"" ++ scalar (.int n) ++ "\""
  | .real x => "\"" ++ scalar (.real x) ++ "\""
  | s => scalar s

mutual

/-- A value.  Pairs and sets become lists, and a value is not gone into twice. -/
def compact : Value → String
  | .scalar s => scalar s
  | .list items => "[" ++ join ", " (compactItems items) ++ "]"
  | .object members => "\x7b" ++ join ", " (compactMembers members) ++ "\x7d"
  | .pair first second => "[" ++ compact first ++ ", " ++ compact second ++ "]"
  | .set keys => "[" ++ join ", " (keys.map scalar) ++ "]"
  | .knot .. => "null"

def compactItems : List Value → List String
  | [] => []
  | v :: rest => compact v :: compactItems rest

def compactMembers : Members → List String
  | [] => []
  | (k, v) :: rest => (key k ++ ": " ++ compact v) :: compactMembers rest

end

/-! ## On many lines -/

def margin (depth : Nat) : String :=
  "\n" ++ String.ofList (List.replicate (2 * depth) ' ')

/-- Lines between an opening and a closing bracket; nothing between them if
there are none. -/
def block (opening closing : String) (depth : Nat) (lines : List String) : String :=
  if lines.isEmpty then opening ++ closing
  else
    opening ++ margin (depth + 1) ++ join ("," ++ margin (depth + 1)) lines ++ margin depth ++
      closing

mutual

def indentedAt (depth : Nat) : Value → String
  | .list items => block "[" "]" depth (indentedItems (depth + 1) items)
  | .object members => block "\x7b" "\x7d" depth (indentedMembers (depth + 1) members)
  | v => compact v

def indentedItems (depth : Nat) : List Value → List String
  | [] => []
  | v :: rest => indentedAt depth v :: indentedItems depth rest

def indentedMembers (depth : Nat) : Members → List String
  | [] => []
  | (k, v) :: rest => (key k ++ ": " ++ indentedAt depth v) :: indentedMembers depth rest

end

def indented (v : Value) : String :=
  indentedAt 0 v

end SchemaDiagram.Json
