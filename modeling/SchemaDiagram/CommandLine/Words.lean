/-
# SchemaDiagram.CommandLine.Words -- options among the words of a command

A word that starts with a hyphen and is longer than it names options: one by its
long name, or several by single letters.  The value of an option follows a
long name behind `=`, letters directly, or is the next word.  The word `--` ends
the options.  All other words are arguments; options may stand between them only
where `mixed` says so.
-/
import SchemaDiagram.CommandLine.Usage
import SchemaDiagram.Text.Similarity

namespace SchemaDiagram.CommandLine

set_option autoImplicit false

/-- A word that cannot be read, by the name of the option as it is typed. -/
inductive WordFault where
  /-- No option has that name; some have names like it. -/
  | unknownOption (name : String) (alike : List String)
  | valueMissing (name : String)
  | valueUnwanted (name : String)
deriving DecidableEq, Repr

/-- An option that was typed, with its value if it takes one. -/
structure Given where
  option : Opt
  value : String := ""
deriving DecidableEq, Repr

/-! ## One word -/

/-- What one word says: options that are complete, and perhaps one whose value
is the next word, with its name as it is typed. -/
structure OptionWord where
  given : List Given := []
  open? : Option (Opt × String) := none
deriving DecidableEq, Repr

def isOptionWord (word : String) : Bool :=
  match word.toList with
  | '-' :: _ :: _ => true
  | _ => false

/-- The letters behind a single hyphen. -/
def readLetters (options : List Opt) : List Char → Except WordFault OptionWord
  | [] => .ok {}
  | c :: rest =>
      let name := String.ofList ['-', c]
      match options.find? (·.short == some c) with
      | none => .error (.unknownOption name [])
      | some o =>
          if o.takes = .nothing then do
            let more ← readLetters options rest
            return { more with given := { option := o } :: more.given }
          else if rest.isEmpty then .ok { open? := some (o, name) }
          else .ok { given := [{ option := o, value := String.ofList rest }] }

/-- A word with a long name. -/
def readLong (options : List Opt) (word : List Char) : Except WordFault OptionWord :=
  let name := String.ofList (word.takeWhile (· != '='))
  let value? :=
    match word.dropWhile (· != '=') with
    | _ :: value => some (String.ofList value)
    | [] => none
  match options.find? (·.long == name), value? with
  | none, _ => .error (.unknownOption name (Text.closest name (options.map (·.long))))
  | some o, none =>
      if o.takes = .nothing then .ok { given := [{ option := o }] }
      else .ok { open? := some (o, name) }
  | some o, some value =>
      if o.takes = .nothing then .error (.valueUnwanted name)
      else .ok { given := [{ option := o, value }] }

def readWord (options : List Opt) (word : String) : Except WordFault OptionWord :=
  match word.toList with
  | '-' :: '-' :: rest => readLong options ('-' :: '-' :: rest)
  | '-' :: letters => readLetters options letters
  | _ => .ok {}

/-! ## All words -/

/-- Words sorted into options and arguments, each in the order typed. -/
structure Typed where
  given : List Given := []
  arguments : List String := []
deriving DecidableEq, Repr

namespace Typed

def addGiven (given : List Given) (t : Typed) : Typed :=
  { t with given := given ++ t.given }

def ofWords (options : List Opt) (mixed : Bool) : List String → Except WordFault Typed
  | [] => .ok {}
  | word :: rest =>
      if word = "--" then .ok { arguments := rest }
      else if isOptionWord word then
        match readWord options word with
        | .error fault => .error fault
        | .ok { given, open? := none } =>
            (ofWords options mixed rest).map (addGiven given)
        | .ok { given, open? := some (o, name) } =>
            match rest with
            | [] => .error (.valueMissing name)
            | value :: rest =>
                (ofWords options mixed rest).map
                  (addGiven (given ++ [{ option := o, value }]))
      else if mixed then
        (ofWords options mixed rest).map fun t => { t with arguments := word :: t.arguments }
      else .ok { arguments := word :: rest }

/-- The value of an option, which is known by its long name; the last one
counts. -/
def value? (t : Typed) (o : Opt) : Option String :=
  (t.given.reverse.find? (·.option.long == o.long)).map (·.value)

def has (t : Typed) (o : Opt) : Bool :=
  (t.value? o).isSome

end Typed

end SchemaDiagram.CommandLine
