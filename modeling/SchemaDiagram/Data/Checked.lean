/-
# SchemaDiagram.Data.Checked -- taking typed data out of a value

A value of a foreign document is checked against the type that is expected.  All
mismatches are collected, each with its path, in the order in which the members
are asked for.  An integer may also come as a boolean, as a whole number with a
point, or as text in digits; a boolean as 0, 1 or one of the usual words.
-/
import SchemaDiagram.Data.Step
import SchemaDiagram.Data.Value
import SchemaDiagram.Text.Blank
import SchemaDiagram.Text.Search

namespace SchemaDiagram

set_option autoImplicit false

/-! ## Mismatches -/

inductive Mismatch where
  | missing
  | notText
  /-- Bytes that are no text. -/
  | notUnicode
  | notList
  /-- Not an object, where the section of that name is expected. -/
  | notSection (name : String)
  | notInteger
  | notIntegerText
  | integerTooLong
  | fractional
  | notFinite
  | below (least : Nat)
  | notBoolean
  | notBooleanWord
  | notCardinality
deriving DecidableEq, Repr, Inhabited

namespace Mismatch

/-- The short name of the kind of mismatch. -/
def code : Mismatch → String
  | missing => "missing"
  | notText => "string_type"
  | notUnicode => "string_unicode"
  | notList => "list_type"
  | notSection _ => "model_type"
  | notInteger => "int_type"
  | notIntegerText => "int_parsing"
  | integerTooLong => "int_parsing_size"
  | fractional => "int_from_float"
  | notFinite => "finite_number"
  | below _ => "greater_than_equal"
  | notBoolean => "bool_type"
  | notBooleanWord => "bool_parsing"
  | notCardinality => "enum"

def message : Mismatch → String
  | missing => "Field required"
  | notText => "Input should be a valid string"
  | notUnicode =>
      "Input should be a valid string, unable to parse raw data as a unicode string"
  | notList => "Input should be a valid list"
  | notSection name => "Input should be a valid dictionary or instance of " ++ name
  | notInteger => "Input should be a valid integer"
  | notIntegerText => "Input should be a valid integer, unable to parse string as an integer"
  | integerTooLong =>
      "Unable to parse input string as an integer, exceeded maximum size"
  | fractional => "Input should be a valid integer, got a number with a fractional part"
  | notFinite => "Input should be a finite number"
  | below least => "Input should be greater than or equal to " ++ Text.decimal least
  | notBoolean => "Input should be a valid boolean"
  | notBooleanWord => "Input should be a valid boolean, unable to interpret input"
  | notCardinality =>
      "Input should be 'oneToOne', 'oneToMany', 'manyToOne' or 'manyToMany'"

end Mismatch

structure Problem where
  path : List Step
  mismatch : Mismatch
deriving DecidableEq, Repr, Inhabited

/-! ## Collecting -/

/-- Data, or everything that stands in its way. -/
abbrev Checked (α : Type) := Except (List Problem) α

namespace Checked

variable {α β : Type}

def fail (mismatch : Mismatch) : Checked α :=
  .error [{ path := [], mismatch }]

/-- Both parts, or the problems of both. -/
def apply (f : Checked (α → β)) (x : Checked α) : Checked β :=
  match f, x with
  | .ok f, .ok a => .ok (f a)
  | .error e, .ok _ => .error e
  | .ok _, .error e => .error e
  | .error e, .error e' => .error (e ++ e')

/-- The same, seen from one step further out. -/
def under (step : Step) : Checked α → Checked α
  | .ok a => .ok a
  | .error problems => .error (problems.map fun p => { p with path := step :: p.path })

/-- The member under `key`, or `default` if there is none. -/
def member (key : String) (read : Value → Checked α) (default : α) (members : Members) :
    Checked α :=
  match Members.get? key members with
  | some v => under (.key key) (read v)
  | none => .ok default

/-- The member under `key`, which must be there. -/
def required (key : String) (read : Value → Checked α) (members : Members) : Checked α :=
  under (.key key)
    (match Members.get? key members with
    | some v => read v
    | none => fail .missing)

/-! ## Texts and lists -/

/-- The text that bytes stand for. -/
def textOfBytes? (content : List UInt8) : Option String :=
  String.fromUTF8? ⟨content.toArray⟩

/-- A text, or the text that bytes stand for. -/
def text (v : Value) : Checked String :=
  match v.untied with
  | .text s => .ok s
  | .bytes content =>
      match textOfBytes? content with
      | some s => .ok s
      | none => fail .notUnicode
  | _ => fail .notText

def textOrNull (v : Value) : Checked (Option String) :=
  match v.untied with
  | .null => .ok none
  | v => (text v).map some

def itemsFrom (read : Value → Checked α) (index : Nat) : List Value → Checked (List α)
  | [] => .ok []
  | v :: rest =>
      apply (apply (.ok List.cons) (under (.index index) (read v)))
        (itemsFrom read (index + 1) rest)

/-- A list; pairs and sets count as lists of their items. -/
def listOf (read : Value → Checked α) (v : Value) : Checked (List α) :=
  match v.untied with
  | .list items => itemsFrom read 0 items
  | .pair first second => itemsFrom read 0 [first, second]
  | .set keys => itemsFrom read 0 (keys.map .scalar)
  | _ => fail .notList

/-- The members of the section of that name. -/
def section_ (name : String) (read : Members → Checked α) (v : Value) : Checked α :=
  match v.untied with
  | .object members => read members
  | _ => fail (.notSection name)

/-! ## Integers -/

/-- The blanks that may surround an integer. -/
def isPadding (c : Char) : Bool :=
  Text.isBlank c && !(0x1C ≤ c.toNat && c.toNat ≤ 0x1F)

/-- The longest integer that is read from text, in digits. -/
def longestInteger : Nat := 4300

/-- An integer in plain digits, a zero alone or no zero at the start. -/
def plainInteger (cs : List Char) : Checked Int :=
  let (negative, digits) :=
    match cs with
    | '-' :: rest => (true, rest)
    | _ => (false, cs)
  let run := digits.takeWhile Char.isDigit
  if digits = ['0'] then .ok 0
  else if run.isEmpty || run.head? = some '0' then fail .notIntegerText
  else if longestInteger < run.length then fail .integerTooLong
  else if run.length < digits.length then fail .notIntegerText
  else
    let n : Int := Text.ofDigits 10 digits
    .ok (if negative then -n else n)

/-- A number without a point that only zeros follow. -/
def withoutZeroFraction (cs : List Char) : List Char :=
  match Text.piecesOf '.' cs with
  | [whole, zeros] => if !zeros.isEmpty && zeros.all (· == '0') then whole else cs
  | _ => cs

/-- A number without the zeros it starts with, and underscores among them; the
last one stays if there is nothing else.  `none` for what is no number. -/
def withoutLeadingZeros? : List Char → Option (List Char)
  | '0' :: rest =>
      match rest.dropWhile fun c => c == '0' || c == '_' with
      | [] => some [rest.getLastD '0']
      | c :: more => if c.isDigit || c == '-' then some (c :: more) else none
  | c :: rest => if c.isDigit || c == '-' then some (c :: rest) else none
  | [] => none

/-- A number without underscores, if they are single and inside. -/
def withoutUnderscores (cs : List Char) : List Char :=
  if (Text.piecesOf '_' cs).any List.isEmpty then cs else cs.filter (· != '_')

/-- A text that may write an integer, in plain digits. -/
def cleanInteger? (cs : List Char) : Option (List Char) :=
  let cs := Text.strip isPadding cs
  match cs with
  | '+' :: '-' :: _ => none
  | '+' :: rest => unsigned rest
  | '-' :: rest => (unsigned rest).map ('-' :: ·)
  | _ => unsigned cs
where
  unsigned (cs : List Char) : Option (List Char) :=
    (withoutLeadingZeros? (withoutZeroFraction cs)).map withoutUnderscores

def integerText (s : String) : Checked Int :=
  match plainInteger s.toList, cleanInteger? s.toList with
  | .ok n, _ => .ok n
  | .error problems, cleaned? =>
      if problems.any fun p => p.mismatch = .integerTooLong then .error problems
      else
        match cleaned? with
        | some cs => plainInteger cs
        | none => .error problems

/-- The integer of a number with a point, if it is whole and fits 64 bits. -/
def integerReal (x : Binary64) : Checked Int :=
  match x with
  | .nan | .infinite _ => fail .notFinite
  | .finite .. =>
      match x.toInt? with
      | some n => if n.natAbs < Nat.pow 2 63 then .ok n else fail .integerTooLong
      | none => fail .fractional

def integer : Value → Checked Int
  | .int n => .ok n
  | .bool b => .ok (if b then 1 else 0)
  | .real x => integerReal x
  | .text s => integerText s
  | .bytes content =>
      match textOfBytes? content with
      | some s => integerText s
      | none => fail .notIntegerText
  | _ => fail .notInteger

/-- An integer not below `least`. -/
def atLeast (least : Nat) (v : Value) : Checked { n : Nat // least ≤ n } :=
  match integer v with
  | .ok n =>
      if h : (least : Int) ≤ n then .ok ⟨n.toNat, by omega⟩ else fail (.below least)
  | .error problems => .error problems

/-! ## Booleans -/

def noWords : List String := ["0", "off", "f", "false", "n", "no"]

def yesWords : List String := ["1", "on", "t", "true", "y", "yes"]

def booleanWord (s : String) : Checked Bool :=
  let word := String.ofList (s.toList.map Char.toLower)
  if noWords.contains word then .ok false
  else if yesWords.contains word then .ok true
  else fail .notBooleanWord

/-- An integer of 64 bits as a boolean. -/
def booleanInteger (n : Int) : Checked Bool :=
  if n = 0 then .ok false
  else if n = 1 then .ok true
  else if -(Nat.pow 2 63 : Int) ≤ n && n < (Nat.pow 2 63 : Int) then fail .notBooleanWord
  else fail .notBoolean

def boolean : Value → Checked Bool
  | .bool b => .ok b
  | .int n => booleanInteger n
  | .text s => booleanWord s
  | .bytes content =>
      match textOfBytes? content with
      | some s => booleanWord s
      | none => fail .notBooleanWord
  | .real x =>
      match integerReal x with
      | .ok n => booleanInteger n
      | .error _ => fail .notBoolean
  | _ => fail .notBoolean

end Checked

end SchemaDiagram
