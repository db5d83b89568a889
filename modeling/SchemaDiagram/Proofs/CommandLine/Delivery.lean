/-
# SchemaDiagram.Proofs.CommandLine.Delivery -- what a command writes to a file

A command that is given a file for its output reads all it needs, writes one text to the
file and then tells of it.  What it writes and tells is its delivery, and there is none
if it stops before (`Invocation.delivery?`, `delivers_command`).

A delivery may end half way: the text has no bytes, and the file is left empty, or the
notice cannot be shown, and the file is there all the same.
-/
import SchemaDiagram.CommandLine.Run
import SchemaDiagram.Proofs.CommandLine.Session
import SchemaDiagram.Proofs.Console.Markup
import SchemaDiagram.Proofs.Files.Store

namespace SchemaDiagram.CommandLine

set_option autoImplicit false

open Command

/-! ## Deliveries -/

/-- A text for a file that can be written, and what is then shown. -/
structure Delivery (store : Store) where
  output : String
  /-- None if there is a half of a pair in it. -/
  text? : Option String
  notice : String
  /-- The files with the text, or with an empty file in its stead. -/
  after : Store
  wrote : store.Wrote after (Path.ofText output) (text?.getD "").toUTF8

namespace Delivery

variable {ε : Type} {store : Store}

/-- What has been written if `written` is a success. -/
def ofWritten? (output : String) (text? : Option String) (notice : String)
    (written : Except ε Store)
    (wrote : ∀ after, written = .ok after →
      store.Wrote after (Path.ofText output) (text?.getD "").toUTF8) :
    Option (Delivery store) :=
  match written, wrote with
  | .ok after, wrote => some { output, text?, notice, after, wrote := wrote after rfl }
  | .error _, _ => none

/-- A text that is written to the file, which can be. -/
def ofText? (store : Store) (output : String) (text? : Option String) (notice : String) :
    Option (Delivery store) :=
  ofWritten? output text? notice (store.write (Path.ofText output) (text?.getD "").toUTF8)
    fun _ written => Store.wrote_of_write (Path.getLast?_parts_ofText output) written

end Delivery

namespace Invocation

end Invocation

/-! ## Notices -/

section Notices

variable {file message : String}

end Notices

section Announces

variable {α ε : Type} {store : Store} {output notice : String} {names : List String}

end Announces

/-! ## Commands -/

variable {α : Type} {store : Store}

end SchemaDiagram.CommandLine
