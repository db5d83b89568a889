/-
# SchemaDiagram.Console.Emoji -- emoji by name

A name between two colons stands for an emoji, letter case aside.  It may end in
`-emoji` or `-text`, which ask for the emoji as a picture or as a text sign.  A
name that is not known stays as it is, with both of its colons.
-/
import SchemaDiagram.Console.EmojiTable
import SchemaDiagram.Text.Blank
import SchemaDiagram.Text.Case
import SchemaDiagram.Text.Search

namespace SchemaDiagram.Console.Emoji

set_option autoImplicit false

/-- The word behind `name` in a row of names and emoji. -/
def inRow? (name : String) : List String → Option String
  | word :: emoji :: rest => if word = name then some emoji else inRow? name rest
  | _ => none

/-- An emoji has a character that is none of ASCII. -/
def isEmoji (s : String) : Bool :=
  s.toList.any fun c => 0x7F < c.toNat

/-- The emoji of a name in small letters. -/
def ofName? (name : String) : Option String :=
  (emojiRows.findSome? fun row => inRow? name (Text.pieces ' ' row)).filter isEmoji

/-- A name without its ending, and the mark that the ending asks for. -/
def splitEnding (body : List Char) : List Char × List Char :=
  match Text.after? "ijome-".toList body.reverse with
  | some back => (back.reverse, ['\uFE0F'])
  | none =>
      match Text.after? "txet-".toList body.reverse with
      | some back => (back.reverse, ['\uFE0E'])
      | none => (body, [])

/-- What stands between two colons, as an emoji. -/
def ofBody? (body : List Char) : Option (List Char) :=
  let (name, mark) := splitEnding body
  (ofName? (Text.lower (String.ofList name))).map fun emoji => emoji.toList ++ mark

/-- The characters before the next colon, and those behind it; `none` if a blank
comes first. -/
def uptoColon? : List Char → Option (List Char × List Char)
  | [] => none
  | c :: rest =>
      if c = ':' then some ([], rest)
      else if Text.isBlank c then none
      else (uptoColon? rest).map fun (body, behind) => (c :: body, behind)

/-- Each step takes a character at least, so `fuel` need not exceed the length
of the text. -/
def replaceFrom : Nat → List Char → List Char
  | 0, cs => cs
  | _, [] => []
  | fuel + 1, c :: rest =>
      if c = ':' then
        match uptoColon? rest with
        | some (body, behind) =>
            (ofBody? body).getD (':' :: (body ++ [':'])) ++ replaceFrom fuel behind
        | none => c :: replaceFrom fuel rest
      else c :: replaceFrom fuel rest

/-- A text with its names of emoji replaced. -/
def replace (cs : List Char) : List Char :=
  replaceFrom cs.length cs

end SchemaDiagram.Console.Emoji
