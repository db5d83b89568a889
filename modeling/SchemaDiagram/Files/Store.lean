/-
# SchemaDiagram.Files.Store -- files and directories

A store holds the entries that a program can see, by their place: the names of
the directories on the way and the name itself.  The root is always a directory.
Paths are followed step by step, so that a step through something that is no
directory fails, also one that would lead back.  A name takes 255 bytes and a
path 4095 at most, and neither may hold a null character.
-/
import SchemaDiagram.Files.Path
import SchemaDiagram.Text.Digits
import SchemaDiagram.Text.Literal

namespace SchemaDiagram

set_option autoImplicit false

/-- Contents are compared byte by byte. -/
instance instDecidableEqContent : DecidableEq ByteArray :=
  ByteArray.instDecidableEq

inductive Entry where
  | directory
  | file (content : ByteArray)
deriving DecidableEq, Inhabited

/-! ## Faults -/

inductive StoreFault.Cause where
  | missing
  | exists_
  | notDirectory
  | isDirectory
  | nameTooLong
  /-- A null character ends no path. -/
  | nullCharacter
deriving DecidableEq, Repr, Inhabited

structure StoreFault where
  cause : StoreFault.Cause
  path : String
deriving DecidableEq, Repr, Inhabited

namespace StoreFault

def number : Cause → Nat
  | .missing => 2
  | .exists_ => 17
  | .notDirectory => 20
  | .isDirectory => 21
  | .nullCharacter => 22
  | .nameTooLong => 36

def words : Cause → String
  | .missing => "No such file or directory"
  | .exists_ => "File exists"
  | .notDirectory => "Not a directory"
  | .isDirectory => "Is a directory"
  | .nullCharacter => "Invalid argument"
  | .nameTooLong => "File name too long"

def message (f : StoreFault) : String :=
  if f.cause = .nullCharacter then "embedded null byte"
  else "[Errno " ++ Text.decimal (number f.cause) ++ "] " ++ words f.cause ++ ": " ++
    Text.literal f.path

end StoreFault

/-! ## Names that cannot be -/

def longestName : Nat := 255

def longestPath : Nat := 4095

def isLongName (name : String) : Bool :=
  longestName < name.utf8ByteSize

def hasNull (s : String) : Bool :=
  s.toList.contains '\x00'

/-- What is wrong with a path as a text, before it is followed. -/
def pathFault? (text : String) : Option StoreFault.Cause :=
  if hasNull text then some .nullCharacter
  else if longestPath < text.utf8ByteSize then some .nameTooLong
  else none

/-! ## Stores -/

structure Store where
  entries : List (List String × Entry) := []
  /-- The place from which relative paths start. -/
  here : List String := []
deriving DecidableEq, Inhabited

namespace Store

def at? (s : Store) (place : List String) : Option Entry :=
  if place.isEmpty then some .directory else (s.entries.find? (·.1 == place)).map (·.2)

/-- Entries with `e` at `place`, in the stead of one that is there. -/
def putEntry (place : List String) (e : Entry) :
    List (List String × Entry) → List (List String × Entry)
  | [] => [(place, e)]
  | (p, old) :: rest => if p = place then (p, e) :: rest else (p, old) :: putEntry place e rest

def put (s : Store) (place : List String) (e : Entry) : Store :=
  { s with entries := putEntry place e s.entries }

theorem find?_putEntry (place : List String) (e : Entry)
    (entries : List (List String × Entry)) (q : List String) :
    ((putEntry place e entries).find? (·.1 == q)).map (·.2) =
      if q = place then some e else (entries.find? (·.1 == q)).map (·.2) := by
  induction entries with
  | nil =>
      by_cases h : q = place
      · simp [putEntry, h]
      · simp [putEntry, h, Ne.symm h]
  | cons head rest ih =>
      obtain ⟨p, old⟩ := head
      by_cases h : p = place
      · subst h
        by_cases hq : q = p
        · simp [putEntry, hq]
        · simp [putEntry, hq, beq_eq_false_iff_ne.mpr (Ne.symm hq)]
      · by_cases hq : p = q
        · subst hq
          simp [putEntry, h]
        · simp [putEntry, h, beq_eq_false_iff_ne.mpr hq, ih]

/-- Writing at a place changes that place alone; the root stays a directory. -/
theorem at?_put (s : Store) {place : List String} (h : place ≠ []) (e : Entry)
    (q : List String) :
    (s.put place e).at? q = if q = place then some e else s.at? q := by
  unfold at? put
  by_cases hq : q = []
  · subst hq
    simp [Ne.symm h]
  · simp [hq, find?_putEntry]

/-- The place that steps lead to.  Every place on the way exists. -/
def follow (s : Store) (place : List String) : List String → Except StoreFault.Cause (List String)
  | [] => .ok place
  | step :: rest =>
      match s.at? place with
      | some .directory =>
          if step = "." then s.follow place rest
          else if step = ".." then s.follow place.dropLast rest
          else if isLongName step then .error .nameTooLong
          else if (s.at? (place ++ [step])).isSome then s.follow (place ++ [step]) rest
          else .error .missing
      | some (.file _) => .error .notDirectory
      | none => .error .missing

def start (s : Store) (p : Path) : List String :=
  if p.root = "" then s.here else []

/-- The entry at a path. -/
def find (s : Store) (p : Path) : Except StoreFault.Cause Entry := do
  if let some cause := pathFault? p.text then throw cause
  let place ← s.follow (s.start p) p.parts
  match s.at? place with
  | some e => return e
  | none => throw .missing

/-- The steps of a path as it is typed: a slash at its end asks for a
directory. -/
def typedSteps (s : String) : List String :=
  let parts := Text.pieces '/' s
  let named := parts.filter (· != "")
  if parts.getLast? = some "" then named ++ ["."] else named

/-- The entry at a path as it is typed.  The empty path leads nowhere. -/
def findTyped? (s : Store) (typed : String) : Option Entry :=
  if typed = "" || (pathFault? typed).isSome then none
  else
    match s.follow (s.start (Path.ofText typed)) (typedSteps typed) with
    | .ok place => s.at? place
    | .error _ => none

/-! ## Reading and writing -/

def read (s : Store) (p : Path) : Except StoreFault ByteArray :=
  match s.find p with
  | .ok (.file content) => .ok content
  | .ok .directory => .error { cause := .isDirectory, path := p.text }
  | .error cause => .error { cause, path := p.text }

/-- The place that a file of that path has or would have. -/
def target (s : Store) (p : Path) : Except StoreFault.Cause (List String) := do
  if let some cause := pathFault? p.text then throw cause
  match p.parts.getLast? with
  | none => throw .isDirectory
  | some last =>
      let place ← s.follow (s.start p) p.parts.dropLast
      match s.at? place with
      | some .directory =>
          if last = ".." then throw .isDirectory
          if isLongName last then throw .nameTooLong
          match s.at? (place ++ [last]) with
          | some .directory => throw .isDirectory
          | _ => return place ++ [last]
      | some (.file _) => throw .notDirectory
      | none => throw .missing

def write (s : Store) (p : Path) (content : ByteArray) : Except StoreFault Store :=
  match s.target p with
  | .ok place => .ok (s.put place (.file content))
  | .error cause => .error { cause, path := p.text }

/-- What stops a change of the store, and the store as far as it got. -/
structure Interrupted where
  fault : StoreFault
  left : Store
deriving DecidableEq

/-- Make the directories on the way that `steps` go, as far as they are
missing.  A step with a name that is too long fails for the whole way if the
step before it was there, else for the way up to it, of which `passed` is
behind.  Those that are made before a step fails remain. -/
def makeDirectories (s : Store) (place : List String) (made : Bool) (passed : List String) :
    List String → Except (StoreFault.Cause × Option (List String) × Store) Store
  | [] => .ok s
  | step :: rest =>
      let passed := passed ++ [step]
      if step = ".." then s.makeDirectories place.dropLast made passed rest
      else if isLongName step then .error (.nameTooLong, if made then some passed else none, s)
      else
        let next := place ++ [step]
        match s.at? next with
        | some .directory => s.makeDirectories next made passed rest
        | some (.file _) => .error (if rest.isEmpty then .exists_ else .notDirectory, none, s)
        | none => (s.put next .directory).makeDirectories next true passed rest

/-- A store with the directory `p` and those above it. -/
def withDirectory (s : Store) (p : Path) : Except Interrupted Store :=
  match pathFault? p.text with
  | some cause => .error { fault := { cause, path := p.text }, left := s }
  | none =>
      match s.makeDirectories (s.start p) false [] p.parts with
      | .ok s => .ok s
      | .error (cause, parts?, left) =>
          let path := (match parts? with
            | some parts => { p with parts }
            | none => p).text
          .error { fault := { cause, path }, left }

/-- The store with these directories as far as they can be made. -/
def withWay (s : Store) (p : Path) : Store :=
  match s.withDirectory p with
  | .ok s => s
  | .error e => e.left

end Store

/-! ## Text files -/

/-- Line ends of all kinds become line feeds. -/
def unifyLineEnds : List Char → List Char
  | [] => []
  | '\r' :: '\n' :: rest => '\n' :: unifyLineEnds rest
  | '\r' :: rest => '\n' :: unifyLineEnds rest
  | c :: rest => c :: unifyLineEnds rest

/-- The text in a file; `none` if it is not UTF-8. -/
def textOfBytes? (content : ByteArray) : Option String :=
  (String.fromUTF8? content).map fun s => String.ofList (unifyLineEnds s.toList)

/-- Whether a file ends inside of a byte-order mark at its start. -/
def isCutMark (content : ByteArray) : Bool :=
  content.toList == [0xEF] || content.toList == [0xEF, 0xBB]

/-- The text without a byte-order mark at its start. -/
def withoutMark (s : String) : String :=
  match s.toList with
  | '\uFEFF' :: rest => String.ofList rest
  | _ => s

end SchemaDiagram
