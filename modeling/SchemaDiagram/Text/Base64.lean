/-
# SchemaDiagram.Text.Base64 -- bytes written in sixty-four letters

Four letters write three bytes.  Characters that are no letters are passed over.
Where two letters of a group are there, equals signs may stand for those that
lack, and nothing is read behind them.
-/

namespace SchemaDiagram.Text

set_option autoImplicit false

/-- The six bits of a letter. -/
def letterBits? (c : Char) : Option Nat :=
  if 'A' ≤ c && c ≤ 'Z' then some (c.toNat - 'A'.toNat)
  else if 'a' ≤ c && c ≤ 'z' then some (c.toNat - 'a'.toNat + 26)
  else if '0' ≤ c && c ≤ '9' then some (c.toNat - '0'.toNat + 52)
  else if c = '+' then some 62
  else if c = '/' then some 63
  else none

/-- The whole bytes of a group of letters. -/
def groupBytes : List Nat → List UInt8
  | [a, b] => [UInt8.ofNat (a * 4 + b / 16)]
  | [a, b, c] => groupBytes [a, b] ++ [UInt8.ofNat (b % 16 * 16 + c / 4)]
  | [a, b, c, d] => groupBytes [a, b, c] ++ [UInt8.ofNat (c % 4 * 64 + d)]
  | _ => []

/-- The bytes of the letters ahead, behind those of an open group; `signs` counts
the equals signs since its last letter.  An open group must be filled up. -/
def unlettered (group : List Nat) (signs : Nat) : List Char → Option (List UInt8)
  | [] => if group.isEmpty then some [] else none
  | c :: rest =>
      if c = '=' then
        if 2 ≤ group.length && 4 ≤ group.length + signs + 1 then some (groupBytes group)
        else unlettered group (if 2 ≤ group.length then signs + 1 else signs) rest
      else
        match letterBits? c with
        | none => unlettered group signs rest
        | some bits =>
            let group := group ++ [bits]
            if group.length = 4 then (unlettered [] 0 rest).map (groupBytes group ++ ·)
            else unlettered group 0 rest

def ofBase64? (cs : List Char) : Option (List UInt8) :=
  unlettered [] 0 cs

end SchemaDiagram.Text
