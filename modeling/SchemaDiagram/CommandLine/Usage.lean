/-
# SchemaDiagram.CommandLine.Usage -- the commands and their options

What can be typed, and the help texts made from it.  Help has one layout: the
usage line, what the command does, and its options, with the explanations in one
column two blanks behind the longest entry.
-/
import SchemaDiagram.Text.Search

namespace SchemaDiagram.CommandLine

set_option autoImplicit false

open Text (join)

/-! ## What can be typed -/

/-- What an option takes. -/
inductive Takes where
  | nothing
  | text
  /-- Any path. -/
  | path
  /-- The path of a file that exists. -/
  | file
  | oneOf (names : List String)
deriving DecidableEq, Repr

structure Opt where
  long : String
  short : Option Char := none
  takes : Takes := .nothing
  help : String
  /-- The option is answered before all else. -/
  eager : Bool := false
deriving DecidableEq, Repr

structure Argument where
  name : String
  /-- The argument is the path of something that exists. -/
  isPath : Bool := true
deriving DecidableEq, Repr

inductive CommandName where
  | export_
  | format
  | initConfig
  | inspect
  | parse
  | search
  | validate
deriving DecidableEq, Repr

namespace CommandName

/-- In the order of their names. -/
def all : List CommandName :=
  [export_, format, initConfig, inspect, parse, search, validate]

def text : CommandName → String
  | export_ => "export"
  | format => "format"
  | initConfig => "init-config"
  | inspect => "inspect"
  | parse => "parse"
  | search => "search"
  | validate => "validate"

def ofText? (name : String) : Option CommandName :=
  all.find? (·.text == name)

/-- What the command does, in one paragraph or several. -/
def about : CommandName → List String
  | export_ =>
      ["Export a JSON/YAML graph document as Prisma schema text.",
        "GRAPH_FILE is a document produced by " ++ quoted "prisma-graph parse" ++ "."]
  | format => ["Re-emit a schema file in canonical form."]
  | initConfig => ["Initialize a new config file with default settings."]
  | inspect => ["Show the models, enums and relations of a schema file."]
  | parse =>
      ["Parse a schema file into a diagram graph document.",
        "SCHEMA_FILE is the path to a .prisma or .txt file."]
  | search => ["Find models whose name contains QUERY (case-insensitive)."]
  | validate =>
      ["Run structural checks on a schema file.",
        "SCHEMA_FILE is the path to a .prisma or .txt file."]
where
  quoted (s : String) : String :=
    let mark := String.ofList [Char.ofNat 0x60]
    mark ++ s ++ mark

def arguments : CommandName → List Argument
  | export_ => [{ name := "GRAPH_FILE" }]
  | initConfig => []
  | search => [{ name := "SCHEMA_FILE" }, { name := "QUERY", isPath := false }]
  | _ => [{ name := "SCHEMA_FILE" }]

end CommandName

/-! ## Options -/

def helpOption : Opt where
  long := "--help"
  help := "Show this message and exit."
  eager := true

def versionOption : Opt where
  long := "--version"
  help := "Show the version and exit."
  eager := true

def verboseOption : Opt where
  long := "--verbose"
  short := some 'v'
  help := "Enable verbose output"

def configOption : Opt where
  long := "--config"
  short := some 'c'
  takes := .file
  help := "Project config YAML"

def outputOption : Opt where
  long := "--output"
  short := some 'o'
  takes := .path
  help := "Output schema file (stdout if not specified)"

def formatOption : Opt where
  long := "--format"
  short := some 'f'
  takes := .oneOf ["json", "yaml"]
  help := "Output format"

def resolveOption : Opt where
  long := "--resolve-reverse-fields"
  help := "Look up back-reference fields on target models"

def noValidateOption : Opt where
  long := "--no-validate"
  help := "Skip structural validation"

def nameOption : Opt where
  long := "--name"
  short := some 'n'
  takes := .text
  help := "Project name"

def generalOptions : List Opt := [versionOption, verboseOption, helpOption]

def CommandName.options : CommandName → List Opt
  | .export_ | .format => [outputOption, configOption, helpOption]
  | .initConfig => [{ outputOption with help := "Output file path" }, nameOption, helpOption]
  | .inspect => [configOption, helpOption]
  | .parse =>
      [{ outputOption with help := "Output file (stdout if not specified)" }, formatOption,
        configOption, resolveOption, noValidateOption, helpOption]
  | .search | .validate => [helpOption]

/-! ## Help -/

def version : String := "0.1.0"

def programName : String := "cli"

def usageLine : Option CommandName → String
  | none => "Usage: " ++ programName ++ " [OPTIONS] COMMAND [ARGS]..."
  | some c =>
      join " " (["Usage: " ++ programName, c.text, "[OPTIONS]"] ++ c.arguments.map (·.name))

/-- The program, and the command if there is one, as they are typed. -/
def typedName : Option CommandName → String
  | none => programName
  | some c => programName ++ " " ++ c.text

def Takes.metavar : Takes → String
  | .nothing => ""
  | .text => " TEXT"
  | .path => " PATH"
  | .file => " FILE"
  | .oneOf names => " [" ++ join "|" names ++ "]"

def Opt.entry (o : Opt) : String :=
  (match o.short with
    | some c => String.ofList ['-', c, ',', ' ']
    | none => "") ++ o.long ++ o.takes.metavar

/-- Entries with their explanations, in two columns. -/
def twoColumns (rows : List (String × String)) : List String :=
  let width := (rows.map fun r => r.1.length).foldl max 0
  rows.map fun (entry, help) =>
    "  " ++ entry ++ String.ofList (List.replicate (width + 2 - entry.length) ' ') ++ help

def optionLines (options : List Opt) : List String :=
  "Options:" :: twoColumns (options.map fun o => (o.entry, o.help))

def helpText : Option CommandName → String
  | none =>
      join "\n" ([usageLine none, "",
        "  prisma-graph - Turn Prisma schemas into model/relation graphs and back.", ""] ++
        optionLines generalOptions ++ ["", "Commands:"] ++
        twoColumns (CommandName.all.map fun c => (c.text, c.about.headD "")))
  | some c =>
      join "\n" ([usageLine (some c), "", join "\n\n" (c.about.map ("  " ++ ·)), ""] ++
        optionLines c.options)

end SchemaDiagram.CommandLine
