/-
# SchemaDiagram.Text.Similarity -- texts that look alike

Two texts are compared by what they have in common: the longest block of
characters that stands in both, and in the same way what the texts have in
common before it and behind it.  Of blocks of one length the first in the one
text counts, and of those the first in the other.  The likeness of two texts is
the share of their characters that is in such blocks.
-/
import SchemaDiagram.Text.Order

namespace SchemaDiagram.Text

set_option autoImplicit false

/-! ## Common blocks -/

/-- The number of characters that two texts start with alike. -/
def commonStart : List Char → List Char → Nat
  | a :: as, b :: bs => if a = b then commonStart as bs + 1 else 0
  | _, _ => 0

/-- A block that stands in both texts, by its places there. -/
structure Block where
  left : Nat
  right : Nat
  size : Nat
deriving DecidableEq, Repr

/-- The longer block, the first one of two that are equally long. -/
def Block.longer (a b : Block) : Block :=
  if a.size < b.size then b else a

/-- The longest block at the start of one text; `right` is the place from which
the other one is searched. -/
def blockAtStart (left : Nat) (as : List Char) (right : Nat) : List Char → Block
  | [] => { left, right, size := 0 }
  | b :: bs =>
      ({ left, right, size := commonStart as (b :: bs) } : Block).longer
        (blockAtStart left as (right + 1) bs)

/-- The longest block, `left` being the place from which the first text is
searched. -/
def longestBlock (left : Nat) (bs : List Char) : List Char → Block
  | [] => { left, right := 0, size := 0 }
  | a :: as => (blockAtStart left (a :: as) 0 bs).longer (longestBlock (left + 1) bs as)

/-- The number of characters in common blocks.  Each step takes a character at
least from the first text. -/
def inCommonWithin : Nat → List Char → List Char → Nat
  | 0, _, _ => 0
  | fuel + 1, as, bs =>
      let block := longestBlock 0 bs as
      if block.size = 0 then 0
      else
        inCommonWithin fuel (as.take block.left) (bs.take block.right) + block.size +
          inCommonWithin fuel (as.drop (block.left + block.size))
            (bs.drop (block.right + block.size))

def inCommon (as bs : List Char) : Nat :=
  inCommonWithin as.length as bs

/-! ## Likeness -/

/-- A text with its likeness to another one, as a quotient. -/
structure Likeness where
  text : String
  shared : Nat
  all : Nat
deriving DecidableEq, Repr

namespace Likeness

def of (text word : String) : Likeness where
  text
  shared := 2 * inCommon text.toList word.toList
  all := text.length + word.length

/-- Whether three characters of five are shared at least. -/
def isClose (l : Likeness) : Bool :=
  3 * l.all ≤ 5 * l.shared

/-- The greater likeness comes first, and of equal ones the greater text. -/
def precedes (a b : Likeness) : Bool :=
  match compare (b.shared * a.all) (a.shared * b.all) with
  | .lt => true
  | .eq => b.text < a.text
  | .gt => false

def insert (l : Likeness) : List Likeness → List Likeness
  | [] => [l]
  | m :: rest => if l.precedes m then l :: m :: rest else m :: insert l rest

end Likeness

/-- The three texts at most that are most like `word`, in ascending order. -/
def closest (word : String) (texts : List String) : List String :=
  let close := (texts.map (Likeness.of · word)).filter (·.isClose)
  ascending (((close.foldr Likeness.insert []).take 3).map (·.text))

end SchemaDiagram.Text
