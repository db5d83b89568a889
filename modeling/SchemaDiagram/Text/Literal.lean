/-
# SchemaDiagram.Text.Literal -- a text between quotes

Single quotes are used unless the text holds one and no double quote.  What does
not show is written by number: two, four or eight hexadecimal digits, whichever
fit first.
-/
import SchemaDiagram.Text.Digits
import SchemaDiagram.Text.Printable

namespace SchemaDiagram.Text

set_option autoImplicit false

def literalChar (quote c : Char) : List Char :=
  if c = quote || c = '\\' then ['\\', c]
  else if c = '\n' then ['\\', 'n']
  else if c = '\r' then ['\\', 'r']
  else if c = '\t' then ['\\', 't']
  else if isPrintable c then [c]
  else if c.toNat < 0x100 then '\\' :: 'x' :: hexDigits 2 c.toNat
  else if c.toNat < 0x10000 then '\\' :: 'u' :: hexDigits 4 c.toNat
  else '\\' :: 'U' :: hexDigits 8 c.toNat

def literal (s : String) : String :=
  let cs := s.toList
  let quote := if cs.contains '\'' && !cs.contains '"' then '"' else '\''
  String.ofList (quote :: (cs.flatMap (literalChar quote) ++ [quote]))

/-- Bytes between quotes, marked as such; those above ASCII are written by
number. -/
def bytesLiteral (content : List UInt8) : String :=
  let cs := content.map fun b => Char.ofNat b.toNat
  let quote := if cs.contains '\'' && !cs.contains '"' then '"' else '\''
  let byte (c : Char) : List Char :=
    if 0x7F ≤ c.toNat then '\\' :: 'x' :: hexDigits 2 c.toNat else literalChar quote c
  String.ofList ('b' :: quote :: (cs.flatMap byte ++ [quote]))

end SchemaDiagram.Text
