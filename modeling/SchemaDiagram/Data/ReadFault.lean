/-
# SchemaDiagram.Data.ReadFault -- why a text gives no value

A text may break the rules of its notation.  It may also keep them and still
write something that is no value, such as the thirteenth month, or nest too
deeply to be read.
-/
import SchemaDiagram.Data.Stamp
import SchemaDiagram.Text.Literal

namespace SchemaDiagram

set_option autoImplicit false

/-! ## Literals that are no value -/

inductive BadLiteral where
  /-- No integer in that base. -/
  | integer (base : Nat) (text : String)
  | integerLength (digits : Nat)
  | number (text : String)
  | truth (text : String)
  /-- A number without a character. -/
  | emptyNumber
  /-- A text that is asked to be a stamp and looks like none. -/
  | noStamp
  | year (n : Nat)
  | month
  | day
  | hour
  | minute
  | second
  /-- A zone further away than a day. -/
  | zone (offset : Int)
  /-- An escape above the last code point. -/
  | codePoint
  /-- An escape that is half of a pair.  It is read, and noticed when the text is put out. -/
  | half
deriving DecidableEq, Repr, Inhabited

/-- The longest integer that is read in base ten, in digits. -/
def longestDecimal : Nat := 4300

namespace BadLiteral

def message : BadLiteral → String
  | integer base text =>
      "invalid literal for int() with base " ++ Text.decimal base ++ ": " ++ Text.literal text
  | integerLength digits =>
      "Exceeds the limit (" ++ Text.decimal longestDecimal ++
        " digits) for integer string conversion: value has " ++ Text.decimal digits ++
        " digits; use sys.set_int_max_str_digits() to increase the limit"
  | number text => "could not convert string to float: " ++ Text.literal text
  | truth text => Text.literal text
  | emptyNumber => "string index out of range"
  | noStamp => "'NoneType' object has no attribute 'groupdict'"
  | year n => "year " ++ Text.decimal n ++ " is out of range"
  | month => "month must be in 1..12"
  | day => "day is out of range for month"
  | hour => "hour must be in 0..23"
  | minute => "minute must be in 0..59"
  | second => "second must be in 0..59"
  | zone offset =>
      "offset must be a timedelta strictly between -timedelta(hours=24) and " ++
        "timedelta(hours=24), not " ++ Stamp.spanLiteral offset ++ "."
  | codePoint => "chr() arg not in range(0x110000)"
  | half => "surrogates not allowed"

end BadLiteral

/-! ## Stamps -/

/-- A day of the calendar; its year comes first, then its month. -/
def Day.check (d : Day) : Except BadLiteral Day :=
  if d.year = 0 then .error (.year d.year)
  else if d.month = 0 || 12 < d.month then .error .month
  else if d.day = 0 || daysOfMonth d.year d.month < d.day then .error .day
  else .ok d

/-- A moment of the calendar.  Its zone is looked at first. -/
def Moment.check (m : Moment) : Except BadLiteral Moment := do
  if let some offset := m.zone then
    if secondsOfDay ≤ offset.natAbs then throw (.zone offset)
  let _ ← m.day.check
  if 24 ≤ m.hour then throw .hour
  if 60 ≤ m.minute then throw .minute
  if 60 ≤ m.second then throw .second
  return m

/-! ## Faults -/

inductive ReadFault where
  | malformed
  | literal (l : BadLiteral)
  /-- Too many values within each other; what stood there when it was noticed, if
  that is told. -/
  | nesting (place : String)
deriving DecidableEq, Repr, Inhabited

def ReadFault.message : ReadFault → String
  | malformed => "The text does not keep the rules of its notation"
  | literal l => l.message
  | nesting place => "maximum recursion depth exceeded" ++ place

/-- What is there, or else a broken rule. -/
def orMalformed {α : Type} : Option α → Except ReadFault α
  | some a => .ok a
  | none => .error .malformed

end SchemaDiagram
