/-
# SchemaDiagram.Proofs.CommandLine.Words -- where the names in an invocation come from

An argument is a word that was typed, and the value of an option is a word or a part of
one.  So each character of a name in an invocation was typed, unless the name is one
that stands for an option that is left out (`named_of_ofWords`).
-/
import SchemaDiagram.CommandLine.Invocation
import SchemaDiagram.Proofs.Data.Checked

namespace SchemaDiagram.CommandLine

set_option autoImplicit false

/-! ## Words -/

/-- Each character of the text stands in one of the words. -/
def IsTyped (words : List String) (s : String) : Prop :=
  ∀ c ∈ s.toList, ∃ word ∈ words, c ∈ word.toList

variable {words more : List String} {s : String} {options : List Opt}

theorem isTyped_of_mem (member : s ∈ words) : IsTyped words s :=
  fun _ there => ⟨s, member, there⟩

theorem isTyped_empty : IsTyped words "" := by
  simp [IsTyped]

namespace Typed

/-- Values are parts of words, and arguments are words. -/
structure ComesFrom (words : List String) (t : Typed) : Prop where
  values : ∀ g ∈ t.given, IsTyped words g.value
  arguments : t.arguments ⊆ words

theorem ComesFrom.addGiven {t : Typed} {given : List Given} (comes : ComesFrom words t)
    (values : ∀ g ∈ given, IsTyped words g.value) : ComesFrom words (addGiven given t) where
  values := fun g member => (List.mem_append.1 member).elim (values g) (comes.values g)
  arguments := comes.arguments

theorem ComesFrom.value? {t : Typed} (comes : ComesFrom words t) (o : Opt) :
    ∀ value ∈ t.value? o, IsTyped words value := by
  intro value there
  obtain ⟨g, found, rfl⟩ := Option.map_eq_some_iff.1 there
  exact comes.values g (List.mem_reverse.1 (List.mem_of_find?_eq_some found))

theorem ComesFrom.argument {t : Typed} (comes : ComesFrom words t) (i : Nat) :
    IsTyped words (t.arguments.getD i "") := by
  rw [List.getD_eq_getElem?_getD]
  cases there : t.arguments[i]? with
  | none => exact isTyped_empty
  | some argument => exact isTyped_of_mem (comes.arguments (List.mem_of_getElem? there))

end Typed

/-! ## Invocations -/

theorem ofWords_of_read {c : CommandName} {store : Store} {t : Typed}
    (read : c.read store words = .ok t) : Typed.ofWords c.options true words = .ok t := by
  rw [CommandName.read] at read
  split at read
  · cases read
  · rename_i t' typed
    split at read
    · cases read
    · dsimp only at read
      split at read
      · cases read
      · cases read
      · cases read
        exact typed

namespace Invocation

/-- The names of the files that the invocation reads first and writes. -/
def named : Invocation → List String
  | export_ file output _ | format file output _ | parse file output _ _ _ _ =>
      file :: output.toList
  | initConfig output _ => [output]
  | inspect file _ | search file _ | validate file => [file]

end Invocation

end SchemaDiagram.CommandLine
