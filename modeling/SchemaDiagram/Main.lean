/-
# SchemaDiagram.Main -- the program

The files that the words of a command line may name are read, `Outcome.ofWords`
is asked what becomes of them, and what it changes is written.
-/
import SchemaDiagram.CommandLine.Run

namespace SchemaDiagram.Main

set_option autoImplicit false

open CommandLine

def absolute (place : List String) : String :=
  "/" ++ Text.join "/" place

/-- The paths that words may name: a word, and what follows `=` or a letter in
it. -/
def pathsIn (words : List String) : List String :=
  defaultSettingsFile :: words.flatMap fun word =>
    let cs := word.toList
    [word, String.ofList ((cs.dropWhile (· != '=')).drop 1), String.ofList (cs.drop 2)]

/-- The places on the way from `place` along `steps`. -/
def placesAlong (place : List String) : List String → List (List String)
  | [] => [place]
  | ".." :: rest => place :: placesAlong place.dropLast rest
  | step :: rest => place :: placesAlong (place ++ [step]) rest

def entryAt? (place : List String) : IO (Option Entry) := do
  try
    return some (.file (← IO.FS.readBinFile (absolute place)))
  catch e =>
    match e with
    | .inappropriateType .. => return some .directory
    | _ => return none

/-- The files and directories that the words may name. -/
def storeFor (words : List String) : IO Store := do
  let here := (Path.ofText (← IO.currentDir).toString).parts
  let start : Store := { here }
  let places := placesAlong [] here ++ (pathsIn words).flatMap fun path =>
    let p := Path.ofText path
    placesAlong (start.start p) p.parts
  places.eraseDups.foldlM (fun s place => do
    match ← entryAt? place with
    | some e => return s.put place e
    | none => return s) start

def writeChanges (before after : Store) : IO Unit :=
  after.entries.forM fun (place, e) => do
    if before.at? place != some e then
      match e with
      | .directory => IO.FS.createDirAll (absolute place)
      | .file content => IO.FS.writeBinFile (absolute place) content

end SchemaDiagram.Main

open SchemaDiagram SchemaDiagram.CommandLine in
def main (words : List String) : IO UInt32 := do
  let before ← Main.storeFor words
  let o := Outcome.ofWords before words
  Main.writeChanges before o.store
  IO.print o.printed
  IO.eprint o.complaint
  if let some b := o.breach then IO.eprintln b.message
  return o.exitCode.toUInt32
