/-
# SchemaDiagram.Proofs.Schema.PrintedName -- names that a printed block keeps

The name of a printed block is what is left of its opening line behind the first
brace.  So a name without braces is read back.  A name with braces is not, as its
own first brace is cut instead of the one behind it, unless cutting it leaves the
name: it is a row of braces with a space between neighbours
(`printedName_eq_self_iff`).
-/
import SchemaDiagram.Proofs.Schema.Statement

namespace SchemaDiagram

set_option autoImplicit false

open Text

/-! ## On characters -/

/-- Braces with a space between neighbours, one more than `n`. -/
def braceRow : Nat → List Char
  | 0 => ['\x7b']
  | n + 1 => '\x7b' :: ' ' :: braceRow n

theorem braceRow_append (n : Nat) : braceRow n ++ [' ', '\x7b'] = braceRow (n + 1) := by
  induction n with
  | zero => rfl
  | succ n ih => rw [braceRow, List.cons_append, List.cons_append, ih, ← braceRow]

theorem bare_braceRow (n : Nat) : Bare isBlank (braceRow n) := by
  cases n with
  | zero => decide
  | succ n =>
      rw [← braceRow_append, bare_append_iff (by cases n <;> simp [braceRow]) (by simp)]
      exact ⟨by cases n <;> simp [braceRow] <;> decide, by simp; decide⟩

/-- What is left of a name's characters behind the first brace. -/
theorem toList_printedName (name : String) :
    (printedName name).toList = strip isBlank ((name.toList ++ [' ', '\x7b']).erase '\x7b') := by
  rw [printedName, toList_stripBlanks, removeFirst, String.toList_ofList, String.toList_append]
  exact congrArg (strip isBlank) (removeFirstChars_singleton '\x7b' _)

theorem strip_erase_of_not_mem {cs : List Char} (bare : Bare isBlank cs) (absent : '\x7b' ∉ cs) :
    strip isBlank ((cs ++ [' ', '\x7b']).erase '\x7b') = cs := by
  have space : ∀ c ∈ [' '], isBlank c = true := List.forall_mem_singleton.2 space_isBlank
  rw [List.erase_append_right _ absent]
  exact (strip_append_right space).trans (strip_of_bare bare)

theorem strip_erase_braceRow (n : Nat) :
    strip isBlank ((braceRow n ++ [' ', '\x7b']).erase '\x7b') = braceRow n := by
  have space : ∀ c ∈ [' '], isBlank c = true := List.forall_mem_singleton.2 space_isBlank
  cases n with
  | zero => decide
  | succ n =>
      rw [braceRow, List.cons_append, List.erase_cons_head, List.cons_append, braceRow_append]
      exact (strip_append_left space).trans (strip_of_bare (bare_braceRow (n + 1)))

/-- A text that becomes itself behind one character by two at its end. -/
theorem braceRow_of_shift {c : Char} :
    ∀ {cs : List Char}, cs ++ [' ', '\x7b'] = c :: '\x7b' :: cs →
      c = ' ' ∧ ∃ n, '\x7b' :: cs = braceRow n
  | [], shifted => by
      cases shifted
      exact ⟨rfl, 0, rfl⟩
  | [_], shifted => by
      have : ' ' = '\x7b' := by
        injection shifted with _ rest
        injection rest
      exact absurd this (by decide)
  | x :: y :: cs, shifted => by
      obtain ⟨rfl, rest⟩ := List.cons_eq_cons.1 shifted
      obtain ⟨rfl, rest⟩ := List.cons_eq_cons.1 rest
      obtain ⟨rfl, n, row⟩ := braceRow_of_shift rest
      exact ⟨rfl, n + 1, by rw [braceRow, ← row]⟩

theorem braceRow_of_strip_erase {cs : List Char} (bare : Bare isBlank cs) (inside : '\x7b' ∈ cs)
    (kept : strip isBlank ((cs ++ [' ', '\x7b']).erase '\x7b') = cs) : ∃ n, cs = braceRow n := by
  obtain ⟨front, back, absent, rfl, cut⟩ := List.exists_erase_eq inside
  have last : ∀ c ∈ (front ++ back ++ [' ', '\x7b']).getLast?, isBlank c = false := by
    rw [List.getLast?_append_of_ne_nil _ (by simp), List.getLast?_cons_cons]
    rintro _ ⟨⟩
    decide
  rw [List.erase_append_left _ inside, cut, strip_of_last last] at kept
  cases front with
  | cons c front =>
      have first : ∀ d ∈ (c :: front ++ back ++ [' ', '\x7b']).head?, isBlank d = false :=
        fun d hd => bare.1 d hd
      rw [dropWhile_of_head first] at kept
      have := congrArg List.length kept
      simp at this
  | nil =>
      -- Cutting blanks shortens the text by one, so there is one blank in front.
      obtain ⟨blanks, whole⟩ := List.dropWhile_suffix (l := back ++ [' ', '\x7b']) isBlank
      rw [List.nil_append] at kept
      rw [kept, List.nil_append] at whole
      have lengths := congrArg List.length whole
      simp at lengths
      obtain ⟨c, rfl⟩ := List.length_eq_one_iff.1 (show blanks.length = 1 by omega)
      exact (braceRow_of_shift whole.symm).2

/-! ## On names -/

theorem toList_join_replicate (n : Nat) :
    (join " " (List.replicate (n + 1) "\x7b")).toList = braceRow n := by
  induction n with
  | zero => rfl
  | succ n ih =>
      rw [List.replicate_succ, join_cons " " (by simp), String.toList_append, String.toList_append,
        ih]
      rfl

/-- **The names that a printed block keeps**: those without braces, and rows of
braces with a space between neighbours. -/
theorem printedName_eq_self_iff {name : String} (stripped : stripBlanks name = name) :
    printedName name = name ↔
      '\x7b' ∉ name.toList ∨ ∃ n, name = join " " (List.replicate (n + 1) "\x7b") := by
  have bare := stripBlanks_eq_self_iff.1 stripped
  rw [← String.toList_inj, toList_printedName]
  constructor
  · intro kept
    by_cases inside : '\x7b' ∈ name.toList
    · obtain ⟨n, row⟩ := braceRow_of_strip_erase bare inside kept
      exact .inr ⟨n, by rw [← String.toList_inj, row, toList_join_replicate]⟩
    · exact .inl inside
  · rintro (absent | ⟨n, rfl⟩)
    · exact strip_erase_of_not_mem bare absent
    · rw [toList_join_replicate]
      exact strip_erase_braceRow n

end SchemaDiagram
