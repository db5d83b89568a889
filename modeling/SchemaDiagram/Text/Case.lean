/-
# SchemaDiagram.Text.Case -- lower case

Lower-casing a text maps each character by itself, with two exceptions: `İ`
becomes two characters, and a capital sigma at the end of a word becomes `ς`.
A sigma ends a word if, case-ignorable characters aside, a cased character
stands before it and none behind it.  `snakeCase` maps characters one by one
and so knows no final sigma.
-/
import SchemaDiagram.Text.CaseTables

namespace SchemaDiagram.Text

set_option autoImplicit false

/-! ## Classes -/

def isUpperCase (c : Char) : Bool :=
  if c.toNat < 0x80 then c.isUpper else inSpans upperSpans c

/-- A cased character that a search for the end of a word does not skip. -/
def isCased (c : Char) : Bool :=
  if c.toNat < 0x80 then c.isAlpha else inSpans casedSpans c

def isCaseIgnorable (c : Char) : Bool :=
  if c.toNat < 0x80 then c == '\'' || c == '.' || c == ':' || c == '^' || c == Char.ofNat 0x60
  else inSpans ignorableSpans c

/-! ## Lower case -/

/-- The lower-case form of a character that has one of a single character. -/
def lowerSimple (c : Char) : Char :=
  if c.toNat < 0x80 then c.toLower
  else
    match lowerShifts.find? (·.span.holds c.toNat) with
    | some shift => Char.ofNat (c.toNat + shift.offset).toNat
    | none => c

def lowerChar (c : Char) : List Char :=
  if c = 'İ' then ['i', '\u0307'] else [lowerSimple c]

/-- Whether a cased character follows, case-ignorable ones skipped. -/
def casedAhead (cs : List Char) : Bool :=
  ((cs.dropWhile isCaseIgnorable).head?.map isCased).getD false

/-- Lower-case `cs`; `inWord` tells whether a cased character comes before it,
case-ignorable ones skipped. -/
def lowerFrom (inWord : Bool) : List Char → List Char
  | [] => []
  | c :: cs =>
      let inWord' := if isCaseIgnorable c then inWord else isCased c
      if c = 'Σ' then (if inWord && !casedAhead cs then 'ς' else 'σ') :: lowerFrom inWord' cs
      else lowerChar c ++ lowerFrom inWord' cs

def lower (s : String) : String :=
  String.ofList (lowerFrom false s.toList)

/-! ## Keys -/

/-- `onDelete` becomes `on_delete`: an underscore and the lower-case form for
each upper-case character, leading underscores dropped. -/
def snakeCase (s : String) : String :=
  let spread := s.toList.flatMap fun c => if isUpperCase c then '_' :: lowerChar c else [c]
  String.ofList (spread.dropWhile (· == '_'))

end SchemaDiagram.Text
