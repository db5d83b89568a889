/-
# SchemaDiagram.CommandLine.Run -- the commands

`Outcome.ofWords` is the whole program: from the words of a command line and the
files to what is printed, the exit code and the files afterwards.

Every command that works on files reads its settings first.  A schema or
document that is written to a file is written before anything is printed about
it.

A schema text is put together from texts that are printed as they were read, halves of
pairs and all.  A document is made of a schema file, which has none.
-/
import SchemaDiagram.Check.Consistency
import SchemaDiagram.Check.SchemaText
import SchemaDiagram.CommandLine.Invocation
import SchemaDiagram.CommandLine.Overview
import SchemaDiagram.CommandLine.Session
import SchemaDiagram.Diagram.Search
import SchemaDiagram.Files.Load
import SchemaDiagram.Json.Writer

namespace SchemaDiagram.CommandLine

set_option autoImplicit false

open Text (decimal)
open Command

/-! ## Reading -/

/-- The settings in a file, the default ones if none is named. -/
def readSettings : Option String → Command Settings
  | none => return {}
  | some file => load (loadSettings · file)

/-- Settings whose texts will be put out. -/
def readPrinted : Option String → Command (Twin Settings)
  | none => return { first := {}, second := {} }
  | some file => loadTwin (loadSettingsWith · · file)

def readSchemaText (file : String) : Command String :=
  load (loadSchemaText · file)

/-! ## Reports -/

def captionOf : Severity → String
  | .error => "[red]ERROR[/red]"
  | .warning => "[yellow]WARNING[/yellow]"
  | .info => "[blue]INFO[/blue]"

def displayFinding (f : Finding) : Command Unit := do
  display ("  " ++ captionOf f.severity ++ ": " ++ Markup.escape f.message)
  if f.path != "" then display ("    Path: " ++ f.path)

def displayReport (name : String) (r : Report) : Command Unit := do
  let verdict := if r.valid then "[green]VALID[/green]" else "[red]INVALID[/red]"
  display ("\n" ++ name ++ ": " ++ verdict)
  r.findings.forM displayFinding

/-! ## Notices -/

def noModelsNotice : String :=
  "[yellow]No models found in schema[/yellow]"

/-! What is shown once a file is written. -/

def exportMessage (s : Schema) : String :=
  "Schema exported with " ++ decimal s.models.length ++ " models and " ++
    decimal s.enums.length ++ " enums"

def formatMessage (file : String) : String :=
  "Formatted " ++ file

def schemaNotice (message file : String) : String :=
  "[green]" ++ message ++ "[/green]\n[cyan]Output:[/cyan] " ++ file

def settingsNotice (file : String) : String :=
  "[green]Created config: " ++ file ++ "[/green]"

def documentNotice (s : Schema) (file : String) : String :=
  "[green]Wrote " ++ decimal s.models.length ++ " models, " ++ decimal s.edges.length ++
    " edges, " ++ decimal s.enums.length ++ " enums to " ++ file ++ "[/green]"

/-! ## Commands -/

/-- Put a schema text out, to a file if there is one. -/
def putSchema (text? : Option String) (output : Option String) (message : String) :
    Command Unit :=
  match output with
  | none => do echo (← whole text?)
  | some file => do
      save file text? (.schemaUnwritable file)
      displayPanel "Done" (schemaNotice message file)

def exportDocument (file : String) (output settings : Option String) : Command Unit := do
  let settings ← readPrinted settings
  let d ← loadTwin (loadDiagramWith · · file settings.first.grid)
  let text := Twin.map₂ (fun d settings => d.schema.render settings.preamble) d settings
  putSchema text.whole? output (exportMessage d.first.schema)

def formatSchema (file : String) (output settings : Option String) : Command Unit := do
  let settings ← readPrinted settings
  let text ← readSchemaText file
  let formatted := settings.map fun settings =>
    (Diagram.ofText text settings).schema.render settings.preamble
  putSchema formatted.whole? output (formatMessage file)

/-- Write a file of default settings; nobody is told why that fails, and the
directories that were made for it remain. -/
def saveDefaults (output name : String) : Command Unit := do
  let store := (← get).store
  match saveSettings store output { name } with
  | .ok store => modify fun s => { s with store }
  | .error f =>
      modify fun s => { s with store := store.withWay (Path.ofText output).parent }
      throw (.broken (.failure f))

def initSettings (output name : String) : Command Unit := do
  saveDefaults output name
  display (settingsNotice output)

def inspectSchema (file : String) (settings : Option String) : Command Unit := do
  let settings ← readSettings settings
  let d := Diagram.ofText (← readSchemaText file) settings
  if d.schema.isEmpty then display "[yellow]No models found[/yellow]"
  else (overview d.schema).forM displayTable

/-- Stop at a schema text that does not pass its checks. -/
def requireValid (text : String) : Command Unit := do
  let r := checkSchemaText text
  if !r.valid then
    r.errors.forM fun message => display ("[red]" ++ message ++ "[/red]")
    throw .reported

/-- Settings by which back fields are looked up too, if that is asked for. -/
def resolving (resolve : Bool) (settings : Settings) : Settings :=
  let reading := settings.reading
  { settings with
    reading := { reading with resolveBackFields := resolve || reading.resolveBackFields } }

def renderDocument (yaml : Bool) (document : Value) : String :=
  if yaml then Yaml.render true document else Json.indented document

/-- Put the document of a schema out, to a file if there is one. -/
def putDocument (s : Schema) (document : String) (output : Option String) : Command Unit := do
  if s.models.isEmpty then display noModelsNotice
  match output with
  | none => echo document
  | some file =>
      save file (some document) (.documentUnwritable file)
      display (documentNotice s file)

def parseSchema (file : String) (output settings : Option String) (yaml resolve check : Bool) :
    Command Unit := do
  let settings ← readSettings settings
  let text ← readSchemaText file
  if check && settings.reading.validateFirst then requireValid text
  let d := Diagram.ofText text (resolving resolve settings)
  putDocument d.schema (renderDocument yaml d.toDocument) output

def searchSchema (file query : String) : Command Unit := do
  let s := Schema.ofText (← readSchemaText file) false
  match (s.search query).matches_ with
  | [] => display ("[yellow]No models match '" ++ query ++ "'[/yellow]")
  | names => names.forM fun name => display ("  - [cyan]" ++ name ++ "[/cyan]")

def validateSchema (file : String) : Command Unit := do
  let text ← readSchemaText file
  let r := checkSchemaText text
  displayReport file r
  if !r.valid then throw .reported
  displayReport "parse result" (Schema.ofText text false).check

def Invocation.command : Invocation → Command Unit
  | export_ file output settings => exportDocument file output settings
  | format file output settings => formatSchema file output settings
  | initConfig output name => initSettings output name
  | inspect file settings => inspectSchema file settings
  | parse file output settings yaml resolve check =>
      parseSchema file output settings yaml resolve check
  | search file query => searchSchema file query
  | validate file => validateSchema file

/-! ## Outcomes -/

structure Outcome where
  exitCode : Nat
  printed : String := ""
  /-- What is said about the command line itself. -/
  complaint : String := ""
  store : Store
  breach : Option Breach := none
deriving DecidableEq

def versionText : String :=
  "prisma-graph, version " ++ version ++ "\n"

def Refusal.outcome (store : Store) : Refusal → Outcome
  | help c => { exitCode := 0, printed := helpText c ++ "\n", store }
  | version => { exitCode := 0, printed := versionText, store }
  | nothing => { exitCode := 2, complaint := helpText none ++ "\n", store }
  | nullCharacter => { exitCode := 1, store, breach := some (.failure .nullCharacter) }
  | fault c f =>
      let usage :=
        if f.showsUsage then
          usageLine c ++ "\nTry '" ++ typedName c ++ " --help' for help.\n\n"
        else ""
      let complaint := Console.withoutCodes (usage ++ "Error: " ++ f.message ++ "\n")
      { exitCode := 2, complaint, store }

namespace Outcome

def ofResult : Except Stop Unit × Session → Outcome
  | (.ok (), s) => { exitCode := 0, printed := s.printed, store := s.store }
  | (.error .reported, s) => { exitCode := 1, printed := s.printed, store := s.store }
  | (.error (.broken b), s) =>
      { exitCode := 1, printed := s.printed, store := s.store, breach := some b }

def ofInvocation (store : Store) (i : Invocation) : Outcome :=
  ofResult (i.command.perform { store })

/-- What a command line leads to. -/
def ofWords (store : Store) (words : List String) : Outcome :=
  match Invocation.ofWords store words with
  | .ok i => ofInvocation store i
  | .error refusal => refusal.outcome store

end Outcome

end SchemaDiagram.CommandLine
