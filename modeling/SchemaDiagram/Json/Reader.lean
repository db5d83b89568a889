/-
# SchemaDiagram.Json.Reader -- reading JSON text

The reader takes standard JSON, and also the names `NaN`, `Infinity` and
`-Infinity`.  A number without point and exponent is an integer of any size.
Where a key is written twice, the last value stands in the first place.  Control
characters inside quotes are refused.  A byte-order mark is no white space, so
a text that starts with one is refused.

Integers have a longest number of digits, and lists and objects a greatest depth.
What goes beyond is no value even where the text breaks off later.

Half of a pair is no character by itself.  In the place of each one the readers put the
character `half` that they are given.
-/
import SchemaDiagram.Data.ReadFault
import SchemaDiagram.Data.Value
import SchemaDiagram.Text.Digits
import SchemaDiagram.Text.Halves

namespace SchemaDiagram.Json

set_option autoImplicit false

def isSpace (c : Char) : Bool :=
  c == ' ' || c == '\t' || c == '\n' || c == '\r'

def skipSpace (cs : List Char) : List Char :=
  cs.dropWhile isSpace

/-! ## Texts -/

/-- Four hexadecimal digits. -/
def readUnit : List Char → Option (Nat × List Char)
  | a :: b :: c :: d :: rest =>
      let digits := [a, b, c, d]
      if digits.all Text.isHexDigit then some (Text.ofDigits 16 digits, rest) else none
  | _ => none

def isLeadUnit (n : Nat) : Bool := 0xD800 ≤ n && n < 0xDC00

def isTrailUnit (n : Nat) : Bool := 0xDC00 ≤ n && n < 0xE000

/-- The character of an escape by number; a lead and a trail unit make one
character. -/
def readNumbered (half : Char) (cs : List Char) : Option (Char × List Char) := do
  let (unit, rest) ← readUnit cs
  if isLeadUnit unit then
    match rest with
    | '\\' :: 'u' :: more =>
        match readUnit more with
        | some (trail, after) =>
            if isTrailUnit trail then
              some (Char.ofNat (0x10000 + (unit - 0xD800) * 0x400 + (trail - 0xDC00)), after)
            else some (half, rest)
        | none => none
    | _ => some (half, rest)
  else if isTrailUnit unit then some (half, rest)
  else some (Char.ofNat unit, rest)

/-- The character of an escape whose backslash has been read. -/
def readEscape (half : Char) : List Char → Option (Char × List Char)
  | '"' :: rest => some ('"', rest)
  | '\\' :: rest => some ('\\', rest)
  | '/' :: rest => some ('/', rest)
  | 'b' :: rest => some ('\x08', rest)
  | 'f' :: rest => some ('\x0C', rest)
  | 'n' :: rest => some ('\n', rest)
  | 'r' :: rest => some ('\r', rest)
  | 't' :: rest => some ('\t', rest)
  | 'u' :: rest => readNumbered half rest
  | _ => none

/-- The characters up to the closing quote, which is dropped; `read` holds those
before, last first.  Each step takes a character at least, so `fuel` need not
exceed the length of the text. -/
def readQuoted (half : Char) : Nat → List Char → List Char → Option (String × List Char)
  | 0, _, _ => none
  | fuel + 1, read, cs =>
      match cs with
      | [] => none
      | '"' :: rest => some (String.ofList read.reverse, rest)
      | '\\' :: rest =>
          (readEscape half rest).bind fun (c, rest) => readQuoted half fuel (c :: read) rest
      | c :: rest => if c.toNat < 0x20 then none else readQuoted half fuel (c :: read) rest

/-! ## Numbers -/

/-- The digits after a point, if there are any. -/
def readFraction : List Char → List Char × List Char
  | '.' :: rest =>
      let digits := rest.takeWhile Char.isDigit
      if digits.isEmpty then ([], '.' :: rest) else (digits, rest.dropWhile Char.isDigit)
  | cs => ([], cs)

/-- The exponent, if there is one with a digit. -/
def readExponent (cs : List Char) : Option Int × List Char :=
  match cs with
  | mark :: rest =>
      if mark = 'e' || mark = 'E' then
        let (negative, body) :=
          match rest with
          | '-' :: body => (true, body)
          | '+' :: body => (false, body)
          | _ => (false, rest)
        let digits := body.takeWhile Char.isDigit
        if digits.isEmpty then (none, cs)
        else
          let n : Int := Text.ofDigits 10 digits
          (some (if negative then -n else n), body.dropWhile Char.isDigit)
      else (none, cs)
  | [] => (none, [])

/-- The digits before the point: a zero alone, or digits that start with
another one. -/
def readWhole : List Char → Option (List Char × List Char)
  | '0' :: rest => some (['0'], rest)
  | cs =>
      let digits := cs.takeWhile Char.isDigit
      if digits.isEmpty then none else some (digits, cs.dropWhile Char.isDigit)

/-- An integer in digits. -/
def integer (negative : Bool) (digits : List Char) : Except ReadFault Value :=
  if longestDecimal < digits.length then .error (.literal (.integerLength digits.length))
  else
    let n : Int := Text.ofDigits 10 digits
    .ok (.int (if negative then -n else n))

/-- A number without its sign. -/
def readNumber (negative : Bool) (cs : List Char) :
    Except ReadFault (Value × List Char) := do
  let (whole, rest) ← orMalformed (readWhole cs)
  let (fraction, rest) := readFraction rest
  let (exponent, rest) := readExponent rest
  if fraction.isEmpty && exponent.isNone then return (← integer negative whole, rest)
  return (.real (Binary64.ofDecimal negative (Text.ofDigits 10 (whole ++ fraction))
    (exponent.getD 0 - fraction.length)), rest)

/-! ## Names -/

/-- A name in full. -/
def readName (name : String) (value : Value) (cs : List Char) :
    Except ReadFault (Value × List Char) :=
  if name.toList.isPrefixOf cs then .ok (value, cs.drop name.length) else .error .malformed

/-! ## Values -/

/-- How many lists and objects may lie within each other. -/
def deepest : Nat := 985

def tooDeep (container : String) : ReadFault :=
  .nesting (" while decoding a JSON " ++ container ++ " from a unicode string")

/-- The characters behind a quote, as a text. -/
def readText (half : Char) (fuel : Nat) (cs : List Char) :
    Except ReadFault (String × List Char) :=
  orMalformed (readQuoted half fuel [] cs)

mutual

/-- A value; `room` more lists and objects may lie within each other. -/
def readValue (half : Char) : Nat → Nat → List Char → Except ReadFault (Value × List Char)
  | 0, _, _ => .error .malformed
  | fuel + 1, room, cs =>
      match cs with
      | '"' :: rest => do
          let (s, rest) ← readText half (fuel + 1) rest
          return (.text s, rest)
      | '[' :: rest =>
          match room, skipSpace rest with
          | 0, _ => .error (tooDeep "array")
          | _, ']' :: rest => .ok (.list [], rest)
          | room + 1, rest => do
              let (items, rest) ← readItems half fuel room rest
              return (.list items, rest)
      | '\x7B' :: rest =>
          match room, skipSpace rest with
          | 0, _ => .error (tooDeep "object")
          | _, '\x7D' :: rest => .ok (.object [], rest)
          | room + 1, rest => do
              let (members, rest) ← readMembers half fuel room [] rest
              return (.object members, rest)
      | 'n' :: _ => readName "null" .null cs
      | 't' :: _ => readName "true" (.bool true) cs
      | 'f' :: _ => readName "false" (.bool false) cs
      | 'N' :: _ => readName "NaN" (.real .nan) cs
      | 'I' :: _ => readName "Infinity" (.real (.infinite false)) cs
      | '-' :: 'I' :: _ => readName "-Infinity" (.real (.infinite true)) cs
      | '-' :: rest => readNumber true rest
      | _ => readNumber false cs

/-- Items separated by commas, and the closing bracket. -/
def readItems (half : Char) : Nat → Nat → List Char → Except ReadFault (List Value × List Char)
  | 0, _, _ => .error .malformed
  | fuel + 1, room, cs => do
      let (value, rest) ← readValue half fuel room cs
      match skipSpace rest with
      | ',' :: rest => do
          let (values, rest) ← readItems half fuel room (skipSpace rest)
          return (value :: values, rest)
      | ']' :: rest => return ([value], rest)
      | _ => throw .malformed

/-- Members separated by commas, and the closing brace. -/
def readMembers (half : Char) :
    Nat → Nat → Members → List Char → Except ReadFault (Members × List Char)
  | 0, _, _, _ => .error .malformed
  | fuel + 1, room, read, cs => do
      let '"' :: rest := cs | throw .malformed
      let (key, rest) ← readText half (fuel + 1) rest
      let ':' :: rest := skipSpace rest | throw .malformed
      let (value, rest) ← readValue half fuel room (skipSpace rest)
      let read := Members.put key value read
      match skipSpace rest with
      | ',' :: rest => readMembers half fuel room read (skipSpace rest)
      | '\x7D' :: rest => return (read, rest)
      | _ => throw .malformed

end

/-- The value that the whole text writes. -/
def readWith (half : Char) (s : String) : Except ReadFault Value := do
  let cs := s.toList
  let (value, rest) ← readValue half (2 * cs.length + 2) deepest (skipSpace cs)
  if (skipSpace rest).isEmpty then return value else throw .malformed

def read (s : String) : Except ReadFault Value :=
  readWith Text.standIn s

end SchemaDiagram.Json
