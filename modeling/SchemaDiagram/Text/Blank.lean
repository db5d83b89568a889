/-
# SchemaDiagram.Text.Blank -- blanks, trimming and words

Blanks are the spaces and line ends of Unicode together with the four separator
controls `1C`-`1F`.  A schema line is trimmed of blanks, then of byte-order
marks, then of blanks again: a mark between two blanks stays.

* `strip` cuts the characters of one class from both ends.
* `trim` is the trimming of a schema line.
* `words` are the maximal runs of characters that are not blank.
-/

namespace SchemaDiagram.Text

set_option autoImplicit false

def isBlank (c : Char) : Bool :=
  let n := c.toNat
  (9 ≤ n && n ≤ 13) || (28 ≤ n && n ≤ 32) || n == 0x85 || n == 0xA0 || n == 0x1680 ||
    (0x2000 ≤ n && n ≤ 0x200A) || n == 0x2028 || n == 0x2029 || n == 0x202F || n == 0x205F ||
    n == 0x3000

/-- The byte-order mark, also known as the zero width no-break space. -/
def byteOrderMark : Char := '\uFEFF'

/-! ## Cutting both ends -/

/-- Cut the last characters, as long as they are in the class `p`. -/
def dropTail (p : Char → Bool) (cs : List Char) : List Char :=
  (cs.reverse.dropWhile p).reverse

def strip (p : Char → Bool) (cs : List Char) : List Char :=
  dropTail p (cs.dropWhile p)

def trimChars (cs : List Char) : List Char :=
  strip isBlank (strip (· == byteOrderMark) (strip isBlank cs))

def stripBlanks (s : String) : String :=
  String.ofList (strip isBlank s.toList)

/-- Blanks cut from both ends, then byte-order marks, then blanks. -/
def trim (s : String) : String :=
  String.ofList (trimChars s.toList)

/-! ## Words -/

/-- The run of non-blanks that the text starts with, and the words after it. -/
def headAndWords : List Char → List Char × List (List Char)
  | [] => ([], [])
  | c :: cs =>
      let (head, rest) := headAndWords cs
      if isBlank c then ([], if head.isEmpty then rest else head :: rest)
      else (c :: head, rest)

def wordsOf (cs : List Char) : List (List Char) :=
  let (head, rest) := headAndWords cs
  if head.isEmpty then rest else head :: rest

def words (s : String) : List String :=
  (wordsOf s.toList).map String.ofList

/-- A text without characters other than blanks. -/
def allBlank (s : String) : Bool :=
  s.toList.all isBlank

end SchemaDiagram.Text
