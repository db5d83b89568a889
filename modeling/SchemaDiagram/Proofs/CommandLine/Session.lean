/-
# SchemaDiagram.Proofs.CommandLine.Session -- what a command makes of the files

What a command gives and which files it leaves depend on the files alone, not on what
has been printed before.  `c.Turns before result after` says both of a command, and it
is put together from the steps of the command.

A command that only reads and prints leaves the files as they are, whether it stops on
the way or not (`Keeps`).
-/
import SchemaDiagram.CommandLine.Session
import SchemaDiagram.Proofs.Data.Checked

namespace SchemaDiagram.CommandLine.Command

set_option autoImplicit false

variable {α β : Type} {c : Command α} {next : α → Command β}
  {store before middle after : Store}

/-! ## Steps -/

theorem perform_bind (c : Command α) (next : α → Command β) (s : Session) :
    (c >>= next).perform s =
      match c.perform s with
      | (.ok a, t) => (next a).perform t
      | (.error stop, t) => (.error stop, t) := by
  change (match c s with
    | (result, t) => ExceptT.bindCont next result t) = _
  rw [perform, ExceptT.run, StateT.run]
  cases c s with
  | mk result t => cases result <;> rfl

theorem perform_bind_iff {s t : Session} {b : β} : (c >>= next).perform s = (.ok b, t) ↔
    ∃ a between, c.perform s = (.ok a, between) ∧ (next a).perform between = (.ok b, t) := by
  rw [perform_bind]
  cases performed : c.perform s with
  | mk result between => cases result <;> simp

/-- From the files `before` the command comes to the files `after`, with that result if
it does not stop. -/
structure Turns (c : Command α) (before : Store) (result : Option α) (after : Store) : Prop where
  performed : ∀ s, s.store = before →
    (c.perform s).1.toOption = result ∧ (c.perform s).2.store = after

theorem Turns.bind {a : α} {last : Option β} (first : c.Turns before (some a) middle)
    (later : (next a).Turns middle last after) : (c >>= next).Turns before last after := by
  refine ⟨fun s same => ?_⟩
  obtain ⟨given, left⟩ := first.performed s same
  rw [perform_bind]
  cases performed : c.perform s with
  | mk outcome t =>
      rw [performed] at given left
      cases outcome with
      | ok b =>
          cases given
          exact later.performed t left
      | error stop => cases given

/-- What comes behind a stop is not done. -/
theorem Turns.stopped (first : c.Turns before none after) :
    (c >>= next).Turns before none after := by
  refine ⟨fun s same => ?_⟩
  obtain ⟨given, left⟩ := first.performed s same
  rw [perform_bind]
  cases performed : c.perform s with
  | mk outcome t =>
      rw [performed] at given left
      cases outcome with
      | ok b => cases given
      | error stop => exact ⟨rfl, left⟩

/-! ## Commands that write no file -/

def Keeps (c : Command α) (store : Store) : Prop :=
  ∃ result, c.Turns store result store

theorem Turns.keeps {result : Option α} (turns : c.Turns store result store) : c.Keeps store :=
  ⟨result, turns⟩

theorem Keeps.bind (first : c.Keeps store) (later : ∀ a, (next a).Keeps store) :
    (c >>= next).Keeps store := by
  obtain ⟨result, first⟩ := first
  cases result with
  | none => exact first.stopped.keeps
  | some a =>
      obtain ⟨last, later⟩ := later a
      exact (first.bind later).keeps

theorem perform_get_bind (read : Session → Command α) (s : Session) :
    (get >>= read).perform s = (read s).perform s := by
  rw [perform_bind]
  rfl

end SchemaDiagram.CommandLine.Command
