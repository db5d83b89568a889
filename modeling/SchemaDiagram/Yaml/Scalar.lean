/-
# SchemaDiagram.Yaml.Scalar -- what a plain text stands for

A text without quotes may stand for nothing, a truth value, a number or a date;
otherwise it stands for itself.  Integers are written in base 2 (`0b`), 8 (a
leading zero), 10 or 16 (`0x`), or as groups of base 60; underscores between
digits count for nothing.  A number with a point may have an exponent, which
must have a sign.

`meaning` tells which of these a text is, so a writer can ask whether a text
needs quotes; `integer`, `real` and `stamp` are the values themselves.  A text
that has the form of a number or a date need not write one: `0x_` has no digits,
and a year no month thirteen.
-/
import SchemaDiagram.Data.ReadFault
import SchemaDiagram.Data.Value
import SchemaDiagram.Text.Blank
import SchemaDiagram.Text.Case

namespace SchemaDiagram.Yaml

set_option autoImplicit false

inductive Meaning where
  | null
  | bool (b : Bool)
  | int
  | real
  | stamp
  /-- The key that takes over the members of another mapping. -/
  | merge
  /-- The key of a default value. -/
  | default
  | text
deriving DecidableEq, Repr

def nullTexts : List String := ["", "~", "null", "Null", "NULL"]

def trueTexts : List String :=
  ["yes", "Yes", "YES", "true", "True", "TRUE", "on", "On", "ON"]

def falseTexts : List String :=
  ["no", "No", "NO", "false", "False", "FALSE", "off", "Off", "OFF"]

/-! ## Digits and groups -/

def isDigitOr_ (c : Char) : Bool := c.isDigit || c == '_'

/-- A digit, and then digits and underscores. -/
def isDecimal (cs : List Char) : Bool :=
  match cs with
  | c :: rest => c.isDigit && rest.all isDigitOr_
  | [] => false

/-- A place of a number in base 60: below 60, in one digit or two. -/
def isSixtieth (cs : List Char) : Bool :=
  match cs with
  | [a] => a.isDigit
  | [a, b] => '0' ≤ a && a ≤ '5' && b.isDigit
  | _ => false

def unsigned : List Char → Bool × List Char
  | '-' :: rest => (true, rest)
  | '+' :: rest => (false, rest)
  | cs => (false, cs)

/-! ## Integers -/

def isIntegerBody (cs : List Char) : Bool :=
  match cs with
  | ['0'] => true
  | '0' :: 'b' :: rest => !rest.isEmpty && rest.all fun c => c == '0' || c == '1' || c == '_'
  | '0' :: 'x' :: rest => !rest.isEmpty && rest.all fun c => Text.isHexDigit c || c == '_'
  | '0' :: rest => rest.all fun c => ('0' ≤ c && c ≤ '7') || c == '_'
  | _ =>
      match Text.piecesOf ':' cs with
      | head :: places => isDecimal head && places.all isSixtieth
      | [] => false

def isInteger (cs : List Char) : Bool :=
  isIntegerBody (unsigned cs).2

/-- The number that places in base 60 make, the first one counting most. -/
def ofSixtieths (places : List Nat) : Nat :=
  places.foldl (fun n place => n * 60 + place) 0

def withoutUnderscores (cs : List Char) : List Char :=
  cs.filter (· != '_')

/-- The mark of a base before its digits. -/
def baseMark? : Nat → Option Char
  | 2 => some 'b'
  | 8 => some 'o'
  | 16 => some 'x'
  | _ => none

/-- The digits behind a zero and the mark of their base, if that is there. -/
def behindMark (base : Nat) (cs : List Char) : List Char :=
  match cs with
  | '0' :: c :: rest => if baseMark? base = some c.toLower then rest else cs
  | _ => cs

/-- The integer that a text writes in one base, with its sign. -/
def basedInteger (base : Nat) (cs : List Char) : Except BadLiteral Int :=
  let (negative, body) := unsigned (Text.strip Text.isBlank cs)
  let digits := behindMark base body
  if digits.isEmpty || !(digits.all fun c => Text.isHexDigit c && Text.digitValue c < base) then
    .error (.integer base (String.ofList cs))
  else if base = 10 && longestDecimal < digits.length then .error (.integerLength digits.length)
  else
    let n : Int := Text.ofDigits base digits
    .ok (if negative then -n else n)

/-- The integer that a text writes by its own marks. -/
def integer (cs : List Char) : Except BadLiteral Int := do
  let (negative, body) := unsigned (withoutUnderscores cs)
  let n : Int ←
    match body with
    | [] => .error .emptyNumber
    | ['0'] => .ok 0
    | '0' :: 'b' :: rest => basedInteger 2 rest
    | '0' :: 'x' :: rest => basedInteger 16 rest
    | '0' :: _ => basedInteger 8 body
    | _ =>
        match Text.piecesOf ':' body with
        | [_] => basedInteger 10 body
        | places => do
            let numbers ← places.mapM (basedInteger 10)
            .ok (numbers.foldl (fun n place => n * 60 + place) 0)
  return if negative then -n else n

/-! ## Numbers with a point -/

/-- Nothing, or `e`, a sign and digits. -/
def isExponent (cs : List Char) : Bool :=
  match cs with
  | [] => true
  | mark :: sign :: digits =>
      (mark == 'e' || mark == 'E') && (sign == '-' || sign == '+') && !digits.isEmpty &&
        digits.all Char.isDigit
  | _ => false

/-- Digits and underscores behind the point, and then an exponent. -/
def isFraction (cs : List Char) : Bool :=
  isExponent (cs.dropWhile isDigitOr_)

def infinityTexts : List String := [".inf", ".Inf", ".INF"]

def nanTexts : List String := [".nan", ".NaN", ".NAN"]

/-- A text up to its first point, and the text behind that. -/
def aroundPoint? (cs : List Char) : Option (List Char × List Char) :=
  match cs.dropWhile (· != '.') with
  | '.' :: rest => some (cs.takeWhile (· != '.'), rest)
  | _ => none

def isReal (cs : List Char) : Bool :=
  let body := (unsigned cs).2
  nanTexts.contains (String.ofList cs) || infinityTexts.contains (String.ofList body) ||
    match aroundPoint? body with
    | none => false
    | some (whole, fraction) =>
        if whole.isEmpty then
          body == cs && (fraction.head?.map Char.isDigit).getD false && isFraction fraction
        else
          match Text.piecesOf ':' whole with
          | head :: [] => isDecimal head && isFraction fraction
          | head :: places =>
              isDecimal head && places.all isSixtieth && fraction.all isDigitOr_
          | [] => false

/-- A sign, digits with a point perhaps, and an exponent perhaps; `none` for
anything else. -/
def decimal? (negative : Bool) (cs : List Char) : Option Binary64 :=
  let whole := cs.takeWhile Char.isDigit
  let rest := cs.dropWhile Char.isDigit
  let (fraction, rest) :=
    match rest with
    | '.' :: rest => (rest.takeWhile Char.isDigit, rest.dropWhile Char.isDigit)
    | _ => ([], rest)
  let exponent? : Option Int :=
    match rest with
    | [] => some 0
    | mark :: rest =>
        let (low, digits) := unsigned rest
        if mark.toLower = 'e' && !digits.isEmpty && digits.all Char.isDigit then
          let n : Int := Text.ofDigits 10 digits
          some (if low then -n else n)
        else none
  if whole.isEmpty && fraction.isEmpty then none
  else
    exponent?.map fun exponent =>
      .ofDecimal negative (Text.ofDigits 10 (whole ++ fraction)) (exponent - fraction.length)

/-- The number that a text in small letters writes; also infinity and what is no
number, by name. -/
def namedOrDecimal (outerSign : Bool) (cs : List Char) : Except BadLiteral Binary64 :=
  let (sign, body) := unsigned (Text.strip Text.isBlank cs)
  let negative := outerSign != sign
  let name := String.ofList body
  if name = "inf" || name = "infinity" then .ok (.infinite negative)
  else if name = "nan" then .ok .nan
  else
    match decimal? negative body with
    | some x => .ok x
    | none => .error (.number (String.ofList cs))

/-- The last of several places in base 60, with the seconds that the places
before it make. -/
def ofPlaces (negative : Bool) (places : List (List Char)) : Except BadLiteral Binary64 := do
  let _ ← places.mapM (namedOrDecimal false)
  let last := places.getLastD []
  let fraction := (last.dropWhile (· != '.')).drop 1
  let wholes := places.map fun place => Text.ofDigits 10 (place.takeWhile Char.isDigit)
  let n := ofSixtieths wholes * Nat.pow 10 fraction.length + Text.ofDigits 10 fraction
  return .ofDecimal negative n (-(fraction.length : Int))

/-- The number that a text writes.  Places in base 60 before the point count as
seconds. -/
def real (cs : List Char) : Except BadLiteral Binary64 :=
  let cs := (Text.lower (String.ofList (withoutUnderscores cs))).toList
  let (negative, body) := unsigned cs
  let name := String.ofList body
  if cs.isEmpty then .error .emptyNumber
  else if name = ".inf" then .ok (.infinite negative)
  else if name = ".nan" then .ok .nan
  else
    match Text.piecesOf ':' body with
    | [_] => namedOrDecimal negative body
    | places => ofPlaces negative places

/-! ## Dates -/

/-- A number of one digit or two. -/
def figure? : List Char → Option (List Char × List Char)
  | a :: b :: rest =>
      if !a.isDigit then none
      else if b.isDigit then some ([a, b], rest)
      else some ([a], b :: rest)
  | [a] => if a.isDigit then some ([a], []) else none
  | [] => none

/-- A number of two digits. -/
def twoFigures? (cs : List Char) : Option (Nat × List Char) :=
  (figure? cs).bind fun (ds, rest) =>
    if ds.length = 2 then some (Text.ofDigits 10 ds, rest) else none

/-- What follows a certain character. -/
def behind? (c : Char) : List Char → Option (List Char)
  | d :: rest => if d = c then some rest else none
  | [] => none

/-- The distance of a zone to the east in seconds; `some none` if there is no
zone. -/
def zone? (cs : List Char) : Option (Option Int) :=
  match cs.dropWhile fun c => c == ' ' || c == '\t' with
  | [] => if cs.isEmpty then some none else none
  | ['Z'] => some (some 0)
  | sign :: rest =>
      if sign = '-' || sign = '+' then do
        let (hours, rest) ← figure? rest
        let minutes ←
          match rest with
          | [] => some 0
          | ':' :: rest => do
              let (minutes, rest) ← twoFigures? rest
              if rest.isEmpty then some minutes else none
          | _ => none
        let distance : Int := Text.ofDigits 10 hours * 3600 + minutes * 60
        some (some (if sign = '-' then -distance else distance))
      else none

/-- The digits of a fraction of a second, in microseconds. -/
def microseconds (digits : List Char) : Nat :=
  Text.ofDigits 10 ((digits ++ List.replicate 6 '0').take 6)

/-- A time of the day `day`. -/
def clock? (day : Day) (cs : List Char) : Option Moment := do
  let (hour, rest) ← figure? cs
  let (minute, rest) ← twoFigures? (← behind? ':' rest)
  let (second, rest) ← twoFigures? (← behind? ':' rest)
  let (digits, rest) :=
    match rest with
    | '.' :: rest => (rest.takeWhile Char.isDigit, rest.dropWhile Char.isDigit)
    | _ => ([], rest)
  let zone ← zone? rest
  some
    { day, hour := Text.ofDigits 10 hour, minute, second, micro := microseconds digits, zone }

/-- The time of day behind a gap. -/
def behindGap? (day : Day) : List Char → Option Moment
  | gap :: rest =>
      if gap = 'T' || gap = 't' then clock? day rest
      else if gap = ' ' || gap = '\t' then
        clock? day (rest.dropWhile fun c => c == ' ' || c == '\t')
      else none
  | [] => none

/-- A stamp as it is written; `full` tells that month and day have two digits
each. -/
structure WrittenStamp where
  stamp : Stamp
  full : Bool

def writtenStamp? (cs : List Char) : Option WrittenStamp := do
  let year := cs.take 4
  if year.length != 4 || !year.all Char.isDigit then none
  let (month, rest) ← figure? (← behind? '-' (cs.drop 4))
  let (day, rest) ← figure? (← behind? '-' rest)
  let full := month.length == 2 && day.length == 2
  let day : Day :=
    { year := Text.ofDigits 10 year, month := Text.ofDigits 10 month, day := Text.ofDigits 10 day }
  if rest.isEmpty then some { stamp := .day day, full }
  else (behindGap? day rest).map fun m => { stamp := .moment m, full }

/-- A day alone has months and days of two digits; with a time of day they may
have one. -/
def isStamp (cs : List Char) : Bool :=
  match writtenStamp? cs with
  | some { stamp := .day _, full } => full
  | some { stamp := .moment _, .. } => true
  | none => false

/-- The stamp that a text writes. -/
def stamp (cs : List Char) : Except BadLiteral Stamp :=
  match writtenStamp? cs with
  | some { stamp := .day d, .. } => d.check.map .day
  | some { stamp := .moment m, .. } => m.check.map .moment
  | none => .error .noStamp

/-! ## Meanings -/

def meaning (s : String) : Meaning :=
  let cs := s.toList
  if nullTexts.contains s then .null
  else if trueTexts.contains s then .bool true
  else if falseTexts.contains s then .bool false
  else if isReal cs then .real
  else if isInteger cs then .int
  else if s = "<<" then .merge
  else if isStamp cs then .stamp
  else if s = "=" then .default
  else .text

end SchemaDiagram.Yaml
