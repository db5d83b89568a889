/-
# SchemaDiagram.Files.Failure -- what can go wrong with files

Most failures are reported to whoever asked for the file.  The others are not
expected and end a command: bytes that are no text, for instance, and relation
details of the wrong type in a document that is otherwise in order.
-/
import SchemaDiagram.Data.ReadFault
import SchemaDiagram.Diagram.Document
import SchemaDiagram.Files.Store

namespace SchemaDiagram

set_option autoImplicit false

inductive Failure where
  | schemaSuffix (path : String)
  | schemaUnreadable (path : String) (fault : StoreFault)
  | schemaUnwritable (path : String) (fault : StoreFault)
  | settingsMissing (path : String)
  | settingsNotFile (path : String)
  | settingsUnreadable (path : String) (fault : StoreFault)
  | settingsSyntax
  | settingsNotMapping
  | settingsInvalid (problems : List Problem)
  | documentUnreadable (path : String) (fault : StoreFault)
  | documentUnwritable (path : String) (fault : StoreFault)
  | documentSyntax (path : String)
  | documentMisshapen (messages : List String)
  | detailsInvalid (problems : List Problem)
  | notText
  /-- A fault of the store that nobody reports. -/
  | store (fault : StoreFault)
  /-- A path that holds a null character. -/
  | nullCharacter
  /-- A file in order, with a text in it that writes no value. -/
  | badLiteral (l : BadLiteral)
  /-- A file that nests too deeply; what stood there, if that is told. -/
  | nesting (place : String)
  /-- A key of relation details that is no text. -/
  | keyNotText (key : Scalar)
deriving DecidableEq, Repr, Inhabited

namespace Failure

def ofDocumentError : DocumentError → Failure
  | .misshapen messages => .documentMisshapen messages
  | .invalid problems => .detailsInvalid problems
  | .keyNotText key => .keyNotText key

/-- The failure of a text that gives no value; `malformed` is that of one that does
not keep the rules of its notation. -/
def ofReadFault (malformed : Failure) : ReadFault → Failure
  | .malformed => malformed
  | .literal l => .badLiteral l
  | .nesting place => .nesting place

def message : Failure → String
  | schemaSuffix path => "Please select a .prisma or .txt file: " ++ path
  | schemaUnreadable path fault => "Failed to read schema file " ++ path ++ ": " ++ fault.message
  | schemaUnwritable path fault => "Failed to write schema file " ++ path ++ ": " ++ fault.message
  | settingsMissing path => "Config file not found: " ++ path
  | settingsNotFile path => "Config path is not a file: " ++ path
  | settingsUnreadable path fault => "Failed to read config " ++ path ++ ": " ++ fault.message
  | settingsSyntax => "Invalid YAML in config"
  | settingsNotMapping => "Config must be a YAML mapping"
  | settingsInvalid _ => "Invalid config"
  | documentUnreadable path fault =>
      "Failed to read graph document " ++ path ++ ": " ++ fault.message
  | documentUnwritable path fault =>
      "Failed to write graph document " ++ path ++ ": " ++ fault.message
  | documentSyntax path => "Failed to parse graph document " ++ path
  | documentMisshapen messages => Text.join "; " messages
  | detailsInvalid _ => "Invalid relation details"
  | notText => "Not UTF-8 text"
  | store fault => fault.message
  | nullCharacter => "embedded null byte"
  | badLiteral l => l.message
  | nesting place => ReadFault.message (.nesting place)
  | keyNotText key => DocumentError.keyMessage key

/-- Whether the failure is one that is reported. -/
def isExpected : Failure → Bool
  | detailsInvalid _ => false
  | notText => false
  | store _ => false
  | nullCharacter => false
  | badLiteral _ => false
  | nesting _ => false
  | keyNotText _ => false
  | _ => true

/-- The failure of a fault of the store; `wrap` makes the usual one. -/
def ofFault (wrap : StoreFault → Failure) (fault : StoreFault) : Failure :=
  if fault.cause = .nullCharacter then .nullCharacter else wrap fault

end Failure

end SchemaDiagram
