/-
# SchemaDiagram.Console.Codes -- codes for the terminal

A code starts with an escape character and `[`, goes on with digits, semicolons
and question marks, and ends with a letter.
-/

namespace SchemaDiagram.Console

set_option autoImplicit false

def isCodeInside (c : Char) : Bool :=
  c.isDigit || c == ';' || c == '?'

/-- What is behind the code that a text starts with. -/
def behindCode? : List Char → Option (List Char)
  | '\x1B' :: '[' :: rest =>
      match rest.dropWhile isCodeInside with
      | c :: behind => if c.isAlpha then some behind else none
      | [] => none
  | _ => none

/-- Each step takes a character at least. -/
def dropCodes : Nat → List Char → List Char
  | 0, cs => cs
  | _, [] => []
  | fuel + 1, c :: rest =>
      match behindCode? (c :: rest) with
      | some behind => dropCodes fuel behind
      | none => c :: dropCodes fuel rest

/-- A text without its codes for the terminal. -/
def withoutCodes (s : String) : String :=
  let cs := s.toList
  if cs.contains '\x1B' then String.ofList (dropCodes cs.length cs) else s

end SchemaDiagram.Console
