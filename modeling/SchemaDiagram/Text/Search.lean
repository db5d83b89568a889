/-
# SchemaDiagram.Text.Search -- occurrences inside a text

Occurrences are found from the left.  `removeFirst` cuts the first one only;
`firstAfter` reads a value behind the first occurrence from which it can be
read, so an occurrence with nothing readable behind it is passed over.
-/

namespace SchemaDiagram.Text

set_option autoImplicit false

/-! ## On characters -/

/-- The text after `key`, if the text starts with it. -/
def after? : List Char → List Char → Option (List Char)
  | [], cs => some cs
  | _ :: _, [] => none
  | k :: ks, c :: cs => if k = c then after? ks cs else none

def hasInfix (key : List Char) : List Char → Bool
  | [] => key.isEmpty
  | c :: cs => key.isPrefixOf (c :: cs) || hasInfix key cs

def removeFirstChars (key : List Char) : List Char → List Char
  | [] => []
  | c :: cs => (after? key (c :: cs)).getD (c :: removeFirstChars key cs)

/-- What `read` finds behind the first occurrence of `key` from which it can
read. -/
def firstAfter {α : Type} (key : List Char) (read : List Char → Option α) :
    List Char → Option α
  | [] => (after? key []).bind read
  | c :: cs => ((after? key (c :: cs)).bind read).or (firstAfter key read cs)

/-- The parts of a text between occurrences of `sep`; one more than there are
occurrences. -/
def piecesOf (sep : Char) : List Char → List (List Char)
  | [] => [[]]
  | c :: cs =>
      if c = sep then [] :: piecesOf sep cs
      else
        match piecesOf sep cs with
        | [] => [[c]]
        | head :: rest => (c :: head) :: rest

/-! ## On strings -/

def startsWith (key s : String) : Bool :=
  key.toList.isPrefixOf s.toList

def endsWith (key s : String) : Bool :=
  key.toList.isSuffixOf s.toList

def contains (key s : String) : Bool :=
  hasInfix key.toList s.toList

def removeFirst (key s : String) : String :=
  String.ofList (removeFirstChars key.toList s.toList)

def pieces (sep : Char) (s : String) : List String :=
  (piecesOf sep s.toList).map String.ofList

def count (c : Char) (s : String) : Nat :=
  s.toList.count c

/-- The texts one after another, `sep` between neighbours. -/
def join (sep : String) : List String → String
  | [] => ""
  | [s] => s
  | s :: t :: rest => s ++ sep ++ join sep (t :: rest)

end SchemaDiagram.Text
