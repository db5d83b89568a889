/-
# SchemaDiagram.CommandLine.Session -- what a command does on the way

A command prints and writes files until it ends or stops.  What it has printed
and written before it stops remains.  It stops with a report, which is for the
user, or because of a breach, which nobody foresaw.
-/
import SchemaDiagram.Console.Codes
import SchemaDiagram.Console.Frame
import SchemaDiagram.Console.Markup
import SchemaDiagram.Files.Failure
import SchemaDiagram.Text.Halves

namespace SchemaDiagram.CommandLine

set_option autoImplicit false

open Console (Table)

/-! ## Sessions -/

structure Session where
  store : Store
  /-- What has been printed. -/
  printed : String := ""
deriving DecidableEq, Inhabited

inductive Breach where
  | failure (f : Failure)
  /-- A text for the console cannot be shown. -/
  | markup (fault : Markup.Fault)
deriving DecidableEq, Repr

def Breach.message : Breach → String
  | failure f => f.message
  | markup .tag => "A tag is closed that is not open"
  | markup .component => "A color has an empty component"

inductive Stop where
  /-- The user has been told why. -/
  | reported
  | broken (b : Breach)
deriving DecidableEq, Repr

abbrev Command (α : Type) := ExceptT Stop (StateM Session) α

namespace Command

def perform {α : Type} (c : Command α) (s : Session) : Except Stop α × Session :=
  (ExceptT.run c).run s

/-! ## Printing -/

def print (text : String) : Command Unit :=
  modify fun s => { s with printed := s.printed ++ text }

def printLine (text : String) : Command Unit :=
  print (text ++ "\n")

/-- Print a text as it is but without codes for the terminal, with a line end
behind it. -/
def echo (text : String) : Command Unit :=
  printLine (Console.withoutCodes text)

def printLines (lines : List String) : Command Unit :=
  lines.forM printLine

/-- What shows of a text with tags. -/
def rendered (text : String) : Command String :=
  match Markup.render text with
  | .ok shown => return shown
  | .error fault => throw (.broken (.markup fault))

/-- Print a text with tags, wrapped. -/
def display (text : String) : Command Unit := do
  printLines (Console.wrap Console.consoleWidth (← rendered text))

/-- Print a table with tags in its cells. -/
def displayTable (t : Table) : Command Unit := do
  let rows ← t.rows.mapM fun row => row.mapM rendered
  printLines { t with rows }.lines

/-- Print a text with tags in a box. -/
def displayPanel (title text : String) : Command Unit := do
  printLines (Console.panel title (← rendered text))

/-! ## Failing -/

/-- Tell the user of a failure, if it is one to be told of, and stop. -/
def fail {α : Type} (f : Failure) : Command α := do
  if f.isExpected then
    display ("[red]Error: " ++ Markup.escape f.message ++ "[/red]")
    throw .reported
  else throw (.broken (.failure f))

/-! ## Files -/

/-- Read something from the files. -/
def load {α : Type} (read : Store → Except Failure α) : Command α := do
  match read (← get).store with
  | .ok a => return a
  | .error f => fail f

/-- Read something that will be put out, halves of pairs and all. -/
def loadTwin {α : Type} (read : Char → Store → Except Failure α) : Command (Twin α) :=
  load fun s => Twin.ofReader (read · s)

/-- A text to be put out; one with a half of a pair in it, which is none here, has no
bytes. -/
def whole (text? : Option String) : Command String :=
  match text? with
  | some text => return text
  | none => throw (.broken (.failure (.badLiteral .half)))

/-- Write a text to a file; `failure` tells what it is if the file cannot be written.
The file is emptied before the text is looked at, and stays so if that has no bytes. -/
def save (output : String) (text? : Option String) (failure : StoreFault → Failure) :
    Command Unit := do
  match (← get).store.write (Path.ofText output) (text?.getD "").toUTF8 with
  | .ok store =>
      modify fun s => { s with store }
      let _ ← whole text?
  | .error fault => fail (failure fault)

end Command

end SchemaDiagram.CommandLine
