/-
# SchemaDiagram.Data.Stamp -- days and moments

A moment is a day with a time of day in microseconds; it may have a zone, by its
distance from the zero meridian in seconds.
-/
import SchemaDiagram.Text.Digits
import SchemaDiagram.Text.Search

namespace SchemaDiagram

set_option autoImplicit false

structure Day where
  year : Nat
  month : Nat
  day : Nat
deriving DecidableEq, Repr, Inhabited

structure Moment where
  day : Day
  hour : Nat
  minute : Nat
  second : Nat
  micro : Nat := 0
  /-- Seconds to the east, if there is a zone. -/
  zone : Option Int := none
deriving DecidableEq, Repr, Inhabited

inductive Stamp where
  | day (d : Day)
  | moment (m : Moment)
deriving DecidableEq, Repr, Inhabited

/-! ## The calendar -/

def isLeapYear (year : Nat) : Bool :=
  year % 4 == 0 && (year % 100 != 0 || year % 400 == 0)

/-- The number of days of a month, counted from one. -/
def daysOfMonth (year month : Nat) : Nat :=
  if month = 2 then (if isLeapYear year then 29 else 28)
  else if month = 4 || month = 6 || month = 9 || month = 11 then 30
  else 31

def secondsOfDay : Nat := 86400

/-! ## As findings quote them -/

namespace Stamp

def called (name : String) (arguments : List String) : String :=
  "datetime." ++ name ++ "(" ++ Text.join ", " arguments ++ ")"

def dayArguments (d : Day) : List String :=
  [d.year, d.month, d.day].map Text.decimal

/-- A span of seconds, in whole days and the seconds beyond them. -/
def spanLiteral (seconds : Int) : String :=
  let days := seconds.fdiv secondsOfDay
  let rest := seconds.fmod secondsOfDay
  let parts :=
    (if days = 0 then [] else ["days=" ++ Text.decimalInt days]) ++
      (if rest = 0 then [] else ["seconds=" ++ Text.decimalInt rest])
  called "timedelta" (if parts.isEmpty then ["0"] else parts)

def zoneLiteral (offset : Int) : String :=
  if offset = 0 then "datetime.timezone.utc" else called "timezone" [spanLiteral offset]

/-- Seconds are left out where they and what follows them are zero. -/
def momentArguments (m : Moment) : List String :=
  let clock := [m.hour, m.minute]
  let seconds := if m.second = 0 && m.micro = 0 then [] else [m.second]
  let micros := if m.micro = 0 then [] else [m.micro]
  dayArguments m.day ++ (clock ++ seconds ++ micros).map Text.decimal ++
    (m.zone.map fun offset => "tzinfo=" ++ zoneLiteral offset).toList

def literal : Stamp → String
  | day d => called "date" (dayArguments d)
  | moment m => called "datetime" (momentArguments m)

/-! ## In figures -/

def padded (width n : Nat) : String :=
  let ds := Nat.toDigits 10 n
  String.ofList (List.replicate (width - ds.length) '0' ++ ds)

def dayText (d : Day) : String :=
  Text.join "-" [padded 4 d.year, padded 2 d.month, padded 2 d.day]

def zoneText (offset : Int) : String :=
  let minutes := offset.natAbs / 60
  (if offset < 0 then "-" else "+") ++ padded 2 (minutes / 60) ++ ":" ++ padded 2 (minutes % 60)

/-- The stamp as it is written in a document. -/
def text : Stamp → String
  | day d => dayText d
  | moment m =>
      dayText m.day ++ " " ++ Text.join ":" ([m.hour, m.minute, m.second].map (padded 2)) ++
        (if m.micro = 0 then "" else "." ++ padded 6 m.micro) ++ (m.zone.map zoneText).getD ""

end Stamp

end SchemaDiagram
