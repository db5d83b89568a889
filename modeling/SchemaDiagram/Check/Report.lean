/-
# SchemaDiagram.Check.Report -- findings and what they add up to

A report is valid until it takes an error; warnings and notes do not spoil it.
-/
import SchemaDiagram.Data.Literal

namespace SchemaDiagram

set_option autoImplicit false

inductive Severity where
  | error
  | warning
  | info
deriving DecidableEq, Repr, Inhabited

namespace Severity

def name : Severity → String
  | error => "error"
  | warning => "warning"
  | info => "info"

def ofName? (name : String) : Option Severity :=
  [error, warning, info].find? (·.name == name)

end Severity

/-- What is said of a value that names no severity. -/
def unknownSeverityMessage (given : Value) : String :=
  given.literal ++ " is not a valid ValidationSeverity"

structure Finding where
  severity : Severity
  message : String
  /-- The place in the schema or document; empty for the whole of it. -/
  path : String := ""
  context : Members := []
deriving Inhabited

structure Report where
  valid : Bool := true
  findings : List Finding := []
deriving Inhabited

namespace Report

def add (r : Report) (f : Finding) : Report :=
  { valid := r.valid && f.severity != .error
    findings := r.findings ++ [f] }

/-- The report of these findings. -/
def ofFindings (fs : List Finding) : Report :=
  fs.foldl add {}

def messages (r : Report) (severity : Severity) : List String :=
  (r.findings.filter (·.severity == severity)).map (·.message)

def errors (r : Report) : List String :=
  r.messages .error

def warnings (r : Report) : List String :=
  r.messages .warning

end Report

end SchemaDiagram
