/-
# SchemaDiagram.CommandLine.Invocation -- what a command line asks for

A command line names one command, behind the options of the program.  Its
options are checked in the order in which they were typed, then its arguments,
and last that no word is left over; the first fault counts.  A word that cannot
be read at all comes before these, and a call for help or for the version comes
between the two.

`Invocation.ofWords` looks only at the names of files, not into them.
-/
import SchemaDiagram.CommandLine.Words
import SchemaDiagram.Files.Store

namespace SchemaDiagram.CommandLine

set_option autoImplicit false

open Text (join literal)

/-! ## Refusals -/

/-- What is wrong with a value. -/
inductive ValueFault where
  | nullCharacter
  | noSuchPath (path : String)
  | noSuchFile (path : String)
  | isDirectory (path : String)
  | notOneOf (value : String) (names : List String)
deriving DecidableEq, Repr

def ValueFault.message : ValueFault → String
  | nullCharacter => "embedded null byte"
  | noSuchPath path => "Path " ++ literal path ++ " does not exist."
  | noSuchFile path => "File " ++ literal path ++ " does not exist."
  | isDirectory path => "File " ++ literal path ++ " is a directory."
  | notOneOf value names =>
      literal value ++ " is not one of " ++ join ", " (names.map literal) ++ "."

inductive Fault where
  | word (fault : WordFault)
  | noCommand
  /-- No command has that name; some have names like it. -/
  | unknownCommand (name : String) (alike : List String)
  /-- A value, and the names of the option or argument that it is for. -/
  | value (names : List String) (fault : ValueFault)
  | argumentMissing (name : String)
  | wordsLeft (words : List String)
deriving DecidableEq, Repr

namespace Fault

def message : Fault → String
  | word (.unknownOption name alike) =>
      "No such option " ++ literal name ++ "." ++ suggestion alike
  | word (.valueMissing name) => "Option " ++ literal name ++ " requires an argument."
  | word (.valueUnwanted name) => "Option " ++ literal name ++ " does not take a value."
  | noCommand => "Missing command."
  | unknownCommand name alike => "No such command " ++ literal name ++ "." ++ suggestion alike
  | value names fault =>
      "Invalid value for " ++ join " / " (names.map quoted) ++ ": " ++ fault.message
  | argumentMissing name => "Missing argument " ++ quoted name ++ "."
  | wordsLeft [w] => "Got unexpected extra argument (" ++ w ++ ")"
  | wordsLeft ws => "Got unexpected extra arguments (" ++ join " " ws ++ ")"
where
  quoted (name : String) : String := "'" ++ name ++ "'"
  suggestion : List String → String
    | [] => ""
    | [name] => " Did you mean " ++ literal name ++ "?"
    | names => " (Did you mean one of: " ++ join ", " (names.map literal) ++ "?)"

/-- Whether the usage is shown before the message.  It is not where an option
has no value or one too many. -/
def showsUsage : Fault → Bool
  | word (.valueMissing _) => false
  | word (.valueUnwanted _) => false
  | _ => true

end Fault

/-- A command line that asks for no work. -/
inductive Refusal where
  | help (command : Option CommandName)
  | version
  /-- Nothing was typed at all. -/
  | nothing
  /-- A path holds a null character. -/
  | nullCharacter
  | fault (command : Option CommandName) (fault : Fault)
deriving DecidableEq, Repr

/-! ## Checks -/

def Opt.names (o : Opt) : List String :=
  o.long :: (o.short.map fun c => String.ofList ['-', c]).toList

/-- What is wrong with a value of that kind. -/
def Takes.fault? (s : Store) (value : String) : Takes → Option ValueFault
  | .nothing | .text => none
  | .path => if hasNull value then some .nullCharacter else none
  | .file =>
      if hasNull value then some .nullCharacter
      else match s.findTyped? value with
      | none => some (.noSuchFile value)
      | some .directory => some (.isDirectory value)
      | some (.file _) => none
  | .oneOf names => if names.contains value then none else some (.notOneOf value names)

/-- What is wrong with an option that was typed; of several values the last one
is looked at. -/
def Typed.optionFault? (s : Store) (t : Typed) (o : Opt) : Option Fault :=
  (o.takes.fault? s ((t.value? o).getD "")).map (.value o.names)

/-- What is wrong with the words that stand for arguments. -/
def argumentFault? (s : Store) : List Argument → List String → Option Fault
  | [], [] => none
  | [], words => some (.wordsLeft words)
  | a :: _, [] => some (.argumentMissing a.name)
  | a :: more, word :: words =>
      if a.isPath && hasNull word then some (.value [a.name] .nullCharacter)
      else if a.isPath && (s.findTyped? word).isNone then
        some (.value [a.name] (.noSuchPath word))
      else argumentFault? s more words

/-- The first option typed that is answered before all else. -/
def Typed.eager? (t : Typed) : Option Opt :=
  (t.given.map (·.option)).find? (·.eager)

def eagerRefusal (command : Option CommandName) (o : Opt) : Refusal :=
  if o = versionOption then .version else .help command

/-- The words of a command, checked. -/
def CommandName.read (c : CommandName) (s : Store) (words : List String) :
    Except Refusal Typed :=
  match Typed.ofWords c.options true words with
  | .error fault => .error (.fault c (.word fault))
  | .ok t =>
      match t.eager? with
      | some o => .error (eagerRefusal c o)
      | none =>
          let faults := t.given.findSome? fun g => t.optionFault? s g.option
          match faults.or (argumentFault? s c.arguments t.arguments) with
          | some (.value _ .nullCharacter) => .error .nullCharacter
          | some fault => .error (.fault c fault)
          | none => .ok t

/-! ## Invocations -/

/-- A command with what it is to work on.  The settings are named by their
file. -/
inductive Invocation where
  | export_ (file : String) (output settings : Option String)
  | format (file : String) (output settings : Option String)
  | initConfig (output name : String)
  | inspect (file : String) (settings : Option String)
  | parse (file : String) (output settings : Option String) (yaml resolve check : Bool)
  | search (file query : String)
  | validate (file : String)
deriving DecidableEq, Repr

def defaultSettingsFile : String := "prisma-graph.yaml"

def defaultProjectName : String := "prisma-graph"

namespace Invocation

/-- The file that the output goes to; none for an empty name. -/
def outputOf (t : Typed) : Option String :=
  (t.value? outputOption).filter (· != "")

def ofTyped (t : Typed) : CommandName → Invocation
  | .export_ => .export_ (argument 0) (outputOf t) (t.value? configOption)
  | .format => .format (argument 0) (outputOf t) (t.value? configOption)
  | .initConfig =>
      .initConfig ((t.value? outputOption).getD defaultSettingsFile)
        ((t.value? nameOption).getD defaultProjectName)
  | .inspect => .inspect (argument 0) (t.value? configOption)
  | .parse =>
      .parse (argument 0) (outputOf t) (t.value? configOption)
        (t.value? formatOption == some "yaml") (t.has resolveOption) (!t.has noValidateOption)
  | .search => .search (argument 0) (argument 1)
  | .validate => .validate (argument 0)
where
  argument (i : Nat) : String := t.arguments.getD i ""

/-- The refusal of words that start with no command.  A first word that looks
like an option is looked at once more as one. -/
def unknownCommand (name : String) (rest : List String) : Refusal :=
  match Typed.ofWords generalOptions false (name :: rest) with
  | .error fault => .fault none (.word fault)
  | .ok t =>
      match t.eager? with
      | some o => eagerRefusal none o
      | none =>
          .fault none (.unknownCommand name (Text.closest name (CommandName.all.map (·.text))))

def ofWords (s : Store) (words : List String) : Except Refusal Invocation := do
  if words.isEmpty then throw .nothing
  let t ← (Typed.ofWords generalOptions false words).mapError fun fault =>
    .fault none (.word fault)
  if let some o := t.eager? then throw (eagerRefusal none o)
  match t.arguments with
  | [] => throw (.fault none .noCommand)
  | name :: rest =>
      match CommandName.ofText? name with
      | none => throw (unknownCommand name rest)
      | some c => return ofTyped (← c.read s rest) c

end Invocation

end SchemaDiagram.CommandLine
