/-
# SchemaDiagram.Files.Load -- schemas, settings and documents from files

A schema file is known by its suffix and may start with a byte-order mark.  A
document is YAML or JSON, again by its suffix.  Settings are YAML; a file without
a document has the default settings.

The texts of documents and settings may have halves of pairs in them, which are read as
the character `half`.
-/
import SchemaDiagram.Files.Failure
import SchemaDiagram.Json.Reader
import SchemaDiagram.Text.Halves
import SchemaDiagram.Yaml.Reader
import SchemaDiagram.Yaml.Writer

namespace SchemaDiagram

set_option autoImplicit false

/-- Whether the suffix of a path is among `suffixes`, letter case aside. -/
def hasSuffix (suffixes : List String) (p : Path) : Bool :=
  suffixes.contains (Text.lower p.suffix)

/-! ## Schemas -/

def schemaSuffixes : List String := [".prisma", ".txt"]

def loadSchemaText (s : Store) (path : String) : Except Failure String := do
  let p := Path.ofText path
  if !hasSuffix schemaSuffixes p then throw (.schemaSuffix p.text)
  let content ← (s.read p).mapError (.ofFault (.schemaUnreadable p.text))
  if isCutMark content then return ""
  match textOfBytes? content with
  | some text => return withoutMark text
  | none => throw .notText

/-! ## Settings -/

def Settings.ofValue (v : Value) : Except Failure Settings :=
  match v.untied with
  | .null => (Settings.ofMembers []).mapError .settingsInvalid
  | .object members => (Settings.ofMembers members).mapError .settingsInvalid
  | _ => .error .settingsNotMapping

def Settings.ofYamlWith (half : Char) (text : String) : Except Failure Settings :=
  match Yaml.readWith half text with
  | .ok v => Settings.ofValue v
  | .error f => .error (.ofReadFault .settingsSyntax f)

def Settings.ofYaml (text : String) : Except Failure Settings :=
  ofYamlWith Text.standIn text

def loadSettingsWith (half : Char) (s : Store) (path : String) : Except Failure Settings := do
  let p := Path.ofText path
  match s.find p with
  | .error .nameTooLong => throw (.store { cause := .nameTooLong, path := p.text })
  | .error _ => throw (.settingsMissing p.text)
  | .ok .directory => throw (.settingsNotFile p.text)
  | .ok (.file content) =>
      match textOfBytes? content with
      | some text => Settings.ofYamlWith half text
      | none => throw .notText

def loadSettings (s : Store) (path : String) : Except Failure Settings :=
  loadSettingsWith Text.standIn s path

/-- The text of a settings file, in ASCII. -/
def Settings.toYaml (settings : Settings) : String :=
  Yaml.render false (.object settings.toMembers)

/-- Write settings to a file; the directories on the way are made. -/
def saveSettings (s : Store) (path : String) (settings : Settings) : Except Failure Store := do
  let p := Path.ofText path
  let s ← (s.withDirectory p.parent).mapError fun e => .ofFault .store e.fault
  (s.write p settings.toYaml.toUTF8).mapError (.ofFault .store)

/-! ## Documents -/

def yamlSuffixes : List String := [".yaml", ".yml"]

def loadDiagramWith (half : Char) (s : Store) (path : String) (grid : Grid) :
    Except Failure Diagram := do
  let p := Path.ofText path
  let content ← (s.read p).mapError (.ofFault (.documentUnreadable p.text))
  let some text := textOfBytes? content | throw .notText
  let document ← (if hasSuffix yamlSuffixes p then Yaml.readWith half text
    else Json.readWith half text).mapError (.ofReadFault (.documentSyntax p.text))
  (Diagram.ofDocument document grid).mapError .ofDocumentError

def loadDiagram (s : Store) (path : String) (grid : Grid) : Except Failure Diagram :=
  loadDiagramWith Text.standIn s path grid

end SchemaDiagram
