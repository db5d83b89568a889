/-
# SchemaDiagram.Console.Constant -- constants in the parameters of a tag

A constant is a number, a text or bytes between quotes, `True`, `False`, `None`
or `...`, a tuple in parentheses, or a set or a dictionary in braces.  What is in
a set and the keys of a dictionary must not hold sets or dictionaries.  Only
whether a text writes a constant matters here, so reading tells its kind alone.
-/
import SchemaDiagram.Text.Blank
import SchemaDiagram.Text.Digits
import SchemaDiagram.Text.Search
import SchemaDiagram.Text.WordChar

namespace SchemaDiagram.Console

set_option autoImplicit false

inductive Constant where
  /-- A number; `signed` if a sign stands before it. -/
  | number (imaginary signed : Bool)
  | text
  | bytes
  | other
  /-- A set or a dictionary, or a tuple that holds one. -/
  | collection
deriving DecidableEq, Repr

namespace Constant

abbrev Reading := Option (Constant × List Char)

def skipGap (cs : List Char) : List Char :=
  cs.dropWhile fun c => c == ' ' || c == '\t' || c == '\n' || c == '\x0C'

/-! ## Numbers -/

/-- Digits of a class, single underscores between them. -/
def takeDigits (p : Char → Bool) : List Char → List Char × List Char
  | c :: rest =>
      if p c then
        let (more, behind) :=
          match rest with
          | '_' :: d :: rest => if p d then takeDigits p (d :: rest) else ([], '_' :: d :: rest)
          | rest => takeDigits p rest
        (c :: more, behind)
      else ([], c :: rest)
  | [] => ([], [])
termination_by cs => cs.length

/-- The exponent of a number, if there is one. -/
def skipExponent : List Char → Bool × List Char
  | mark :: rest =>
      if mark = 'e' || mark = 'E' then
        let body :=
          match rest with
          | '+' :: body | '-' :: body => body
          | _ => rest
        let (digits, behind) := takeDigits Char.isDigit body
        if digits.isEmpty then (false, mark :: rest) else (true, behind)
      else (false, mark :: rest)
  | [] => (false, [])

/-- The `j` of an imaginary number. -/
def readUnit : List Char → Bool × List Char
  | 'j' :: rest | 'J' :: rest => (true, rest)
  | cs => (false, cs)

def readDecimal (cs : List Char) : Reading :=
  let (whole, rest) := takeDigits Char.isDigit cs
  let (point, fraction, rest) :=
    match rest with
    | '.' :: rest =>
        let (fraction, rest) := takeDigits Char.isDigit rest
        (true, fraction, rest)
    | _ => (false, [], rest)
  let (exponent, rest) := skipExponent rest
  let (imaginary, rest) := readUnit rest
  if whole.isEmpty && fraction.isEmpty then none
  else if !point && !exponent && !imaginary && whole.head? = some '0' &&
      whole.any (· != '0') then none
  else some (.number imaginary false, rest)

/-- Digits behind a mark for their base. -/
def readBased (p : Char → Bool) (cs : List Char) : Reading :=
  let cs :=
    match cs with
    | '_' :: rest => rest
    | _ => cs
  let (digits, rest) := takeDigits p cs
  if digits.isEmpty then none else some (.number false false, rest)

def isOctal (c : Char) : Bool := '0' ≤ c && c ≤ '7'

def isBinary (c : Char) : Bool := c == '0' || c == '1'

def readNumber : List Char → Reading
  | '0' :: mark :: rest =>
      if mark = 'x' || mark = 'X' then readBased Text.isHexDigit rest
      else if mark = 'o' || mark = 'O' then readBased isOctal rest
      else if mark = 'b' || mark = 'B' then readBased isBinary rest
      else readDecimal ('0' :: mark :: rest)
  | cs => readDecimal cs

/-! ## Quotes -/

/-- The characters behind `count` hexadecimal digits. -/
def skipHex (count : Nat) (cs : List Char) : Option (List Char) :=
  let digits := cs.take count
  if digits.length = count && digits.all Text.isHexDigit then some (cs.drop count) else none

/-- What is behind an escape whose backslash has been read. -/
def skipEscape (isBytes : Bool) : List Char → Option (List Char)
  | 'x' :: rest => skipHex 2 rest
  | 'u' :: rest => if isBytes then some rest else skipHex 4 rest
  | 'U' :: rest =>
      if isBytes then some rest
      else if Text.ofDigits 16 (rest.take 8) ≤ 0x10FFFF then skipHex 8 rest
      else none
  | _ :: rest => some rest
  | [] => none

/-- What is behind the closing quotes. -/
def skipQuoted (quotes : List Char) (raw isBytes : Bool) : Nat → List Char → Option (List Char)
  | 0, _ => none
  | fuel + 1, cs =>
      match Text.after? quotes cs, cs with
      | some rest, _ => some rest
      | none, '\\' :: rest =>
          let behind := if raw then some (rest.drop 1) else skipEscape isBytes rest
          behind.bind (skipQuoted quotes raw isBytes fuel)
      | none, c :: rest =>
          if (c = '\n' && quotes.length = 1) || (isBytes && 0x80 ≤ c.toNat) then none
          else skipQuoted quotes raw isBytes fuel rest
      | none, [] => none

/-- A text or bytes, from the opening quote on. -/
def readQuoted (raw isBytes : Bool) (cs : List Char) : Reading :=
  let kind : Constant := if isBytes then .bytes else .text
  let read (quotes rest : List Char) : Reading :=
    (skipQuoted quotes raw isBytes (rest.length + 1) rest).map fun rest => (kind, rest)
  match cs with
  | a :: b :: c :: rest =>
      if a = b && b = c then read [a, a, a] rest else read [a] (b :: c :: rest)
  | a :: rest => read [a] rest
  | [] => none

def isQuote (c : Option Char) : Bool :=
  c == some '\'' || c == some '"'

/-- A word, or quotes with a mark before them. -/
def readWord (cs : List Char) : Reading :=
  let word := cs.takeWhile Text.isWordChar
  let rest := cs.drop word.length
  let small := Text.join "" (word.map fun c => String.ofList [c.toLower])
  if isQuote rest.head? then
    if small = "r" then readQuoted true false rest
    else if small = "u" then readQuoted false false rest
    else if small = "b" then readQuoted false true rest
    else if small = "br" || small = "rb" then readQuoted true true rest
    else none
  else
    let name := String.ofList word
    if ["True", "False", "None"].contains name then some (.other, rest)
    else if name = "set" then
      match skipGap rest with
      | '(' :: rest =>
          match skipGap rest with
          | ')' :: rest => some (.collection, rest)
          | _ => none
      | _ => none
    else none

/-! ## Values -/

/-- A number behind a sign. -/
def signed : Constant → Option Constant
  | .number imaginary false => some (.number imaginary true)
  | _ => none

/-- The sum of a real and an imaginary number. -/
def sum : Constant → Constant → Option Constant
  | .number false _, .number true false => some .other
  | _, _ => none

/-- Texts side by side make one text. -/
def beside : Constant → Constant → Option Constant
  | .text, .text => some .text
  | .bytes, .bytes => some .bytes
  | _, _ => none

def tuple (items : List Constant) : Constant :=
  if items.contains .collection then .collection else .other

mutual

/-- A value without signs and sums. -/
def readAtom : Nat → List Char → Reading
  | 0, _ => none
  | fuel + 1, cs =>
      match cs with
      | '(' :: rest => do
          let (items, comma, rest) ← readItems fuel (skipGap rest)
          match skipGap rest, items, comma with
          | ')' :: rest, [item], false => some (item, rest)
          | ')' :: rest, items, _ => some (tuple items, rest)
          | _, _, _ => none
      | '\x7B' :: rest => do
          let rest ← readMembers fuel none (skipGap rest)
          some (.collection, rest)
      | '.' :: '.' :: '.' :: rest => some (.other, rest)
      | c :: _ =>
          if isQuote (some c) then do
            let (first, rest) ← readQuoted false false cs
            readBeside fuel first rest
          else if c.isDigit || c = '.' then readNumber cs
          else do
            let (first, rest) ← readWord cs
            readBeside fuel first rest
      | [] => none

/-- Texts that stand beside one. -/
def readBeside : Nat → Constant → List Char → Reading
  | 0, _, _ => none
  | fuel + 1, first, cs =>
      if first != .text && first != .bytes then some (first, cs)
      else
        let ahead := skipGap cs
        let mark := ahead.takeWhile Text.isWordChar
        if isQuote (ahead.drop mark.length).head? then do
          let (next, rest) ← if mark.isEmpty then readQuoted false false ahead else readWord ahead
          readBeside fuel (← beside first next) rest
        else some (first, cs)

def readSigned : Nat → List Char → Reading
  | 0, _ => none
  | fuel + 1, cs =>
      match cs with
      | '+' :: rest | '-' :: rest => do
          let (c, rest) ← readAtom fuel (skipGap rest)
          some (← signed c, rest)
      | _ => readAtom fuel cs

def readValue : Nat → List Char → Reading
  | 0, _ => none
  | fuel + 1, cs => do
      let (first, rest) ← readSigned fuel cs
      match skipGap rest with
      | '+' :: more | '-' :: more =>
          let (second, rest) ← readAtom fuel (skipGap more)
          some (← sum first second, rest)
      | _ => some (first, rest)

/-- Values separated by commas, whether a comma is among them, and the rest. -/
def readItems : Nat → List Char → Option (List Constant × Bool × List Char)
  | 0, _ => none
  | fuel + 1, cs =>
      if cs.head? = some ')' || cs.isEmpty then some ([], false, cs)
      else do
        let (first, rest) ← readValue fuel cs
        match skipGap rest with
        | ',' :: rest =>
            let (items, _, rest) ← readItems fuel (skipGap rest)
            some (first :: items, true, rest)
        | rest => some ([first], false, rest)

/-- What stands behind the opening brace of a set or of a dictionary; `pairs`
tells which of them it is, once that is known. -/
def readMembers : Nat → Option Bool → List Char → Option (List Char)
  | 0, _, _ => none
  | fuel + 1, pairs, cs =>
      match cs with
      | '\x7D' :: rest => some rest
      | _ => do
          let (key, rest) ← readValue fuel cs
          if key = .collection then none
          let (isPair, rest) ←
            match skipGap rest with
            | ':' :: rest => (readValue fuel (skipGap rest)).map fun (_, rest) => (true, rest)
            | rest => some (false, rest)
          if pairs.any (· != isPair) then none
          match skipGap rest with
          | ',' :: rest => readMembers fuel (some isPair) (skipGap rest)
          | '\x7D' :: rest => some rest
          | _ => none

end

/-- Whether a text writes a constant, or several with commas between them. -/
def isWritten (cs : List Char) : Bool :=
  match readItems (4 * cs.length + 4) cs with
  | some (items, _, rest) => !items.isEmpty && (skipGap rest).isEmpty
  | none => false

end Constant

/-! ## Parameters -/

/-- Whether the parameters of a tag can be read.  They may be a name, perhaps
with constants in parentheses behind it, or constants alone. -/
def areParameters (cs : List Char) : Bool :=
  let cs := Text.strip Text.isBlank cs
  let behind := cs.dropWhile fun c => Text.isWordChar c || c == '.'
  if behind.isEmpty then true
  else if behind.head? = some '(' && behind.getLast? = some ')' && !behind.contains '\n' then
    Constant.isWritten behind
  else Constant.isWritten cs

end SchemaDiagram.Console
