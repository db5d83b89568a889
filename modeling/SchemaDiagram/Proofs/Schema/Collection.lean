/-
# SchemaDiagram.Proofs.Schema.Collection -- attributes as groups of words

The attributes of words are groups of them.  A group of several words is an annotation:
it ends with the first word behind which none of its parentheses is open, or with the
last word of all (`ends_of_several`).

The words of the attributes are collected into the same attributes again, and the words
that look like attributes are all among them, in their order (`attributes_laws`).
-/
import SchemaDiagram.Proofs.Schema.Attribute

namespace SchemaDiagram.Field

set_option autoImplicit false

open Text

/-- Of words in a row, the last is the first behind which no parenthesis is open. -/
structure ClosesLast (ws : List String) : Prop where
  closes : depth (join " " ws) ≤ 0
  staysOpen : ∀ front, front <+: ws → front ≠ [] → front ≠ ws → 0 < depth (join " " front)

/-! ## The last group -/

/-- An annotation that is open behind the last word has that word in it. -/
theorem suffix_attributesAfter {ws : List String} (each : ∀ w ∈ ws, IsWord w) {m : String}
    (opens : opensAnnotation m = true) (unclosed : 0 < depth m) :
    (∀ done, attributesAfter none ws = done ++ [m] → words m <:+ ws) ∧
      ∀ pending done, attributesAfter (some pending) ws = done ++ [m] →
        words m <:+ words pending ++ ws := by
  induction ws with
  | nil =>
      refine ⟨fun done same => by simp [attributesAfter] at same, fun pending done same => ?_⟩
      obtain ⟨-, last⟩ := List.append_inj' (show [] ++ [pending] = done ++ [m] from same) rfl
      obtain ⟨rfl, -⟩ := List.cons.inj last
      rw [List.append_nil]
  | cons w rest ih =>
      have word := words_of_isWord (each w List.mem_cons_self)
      obtain ⟨idle, under⟩ := ih fun v hv => each v (List.mem_cons_of_mem _ hv)
      constructor
      · intro done same
        rw [attributesAfter] at same
        split at same
        · have := under w done same
          rwa [word] at this
        · rename_i notPending
          split at same
          · cases done with
            | nil =>
                obtain ⟨rfl, -⟩ := List.cons.inj same
                exact absurd (by simp [opens, unclosed]) notPending
            | cons first done =>
                exact (idle done (List.cons.inj same).2).trans (List.suffix_cons w rest)
          · exact (idle done same).trans (List.suffix_cons w rest)
      · intro pending done same
        have longer : words (pending ++ " " ++ w) = words pending ++ [w] := by
          rw [words_append_blank, word]
        rw [attributesAfter] at same
        split at same
        · have := under _ done same
          rwa [longer, List.append_assoc, List.singleton_append] at this
        · rename_i closed
          cases done with
          | nil =>
              obtain ⟨rfl, -⟩ := List.cons.inj same
              exact absurd unclosed closed
          | cons first done =>
              exact (idle done (List.cons.inj same).2).trans
                ((List.suffix_cons w rest).trans (List.suffix_append _ _))

theorem Formed.complete_or_last {ms : List String} (formed : Formed ms) {m : String}
    {later : List String} :
    ∀ {done}, ms = done ++ m :: later →
      Complete m ∨ later = [] ∧ ∃ ws, Opened ws ∧ m = join " " ws := by
  induction formed with
  | nil => simp
  | @pending ws opened =>
      intro done same
      cases done with
      | nil =>
          obtain ⟨rfl, rfl⟩ := List.cons.inj same
          exact .inr ⟨rfl, ws, opened, rfl⟩
      | cons first done => simp at same
  | cons complete _ ih =>
      intro done same
      cases done with
      | nil =>
          obtain ⟨rfl, -⟩ := List.cons.inj same
          exact .inl complete
      | cons first done => exact ih (List.cons.inj same).2

/-- A group of several words is an annotation that is closed by its last word, or it is
the last group and has the last word of all. -/
theorem ends_of_several {ws : List String} (each : ∀ w ∈ ws, IsWord w)
    {done later : List String} {m : String} (group : attributes ws = done ++ m :: later)
    (several : 1 < (words m).length) :
    opensAnnotation m = true ∧
      (ClosesLast (words m) ∨ later = [] ∧ (words m).getLast? = ws.getLast?) := by
  rcases (formed_attributes each).complete_or_last group with
    complete | ⟨rfl, inside, opened, rfl⟩
  · cases complete with
    | optional => exact absurd several (by decide)
    | plain isWord _ _ =>
        rw [words_of_isWord isWord] at several
        exact absurd several (by simp)
    | enclosed each' opens staysOpen closes =>
        rw [words_join_of_forall each']
        exact ⟨opens, .inl ⟨closes, staysOpen⟩⟩
  · have nonempty := ne_nil_of_opens opened.opens
    have unclosed : 0 < depth (join " " inside) :=
      opened.staysOpen inside (List.prefix_refl _) nonempty
    have last := (suffix_attributesAfter each opened.opens unclosed).1 done group
    rw [words_join_of_forall opened.each] at last ⊢
    obtain ⟨front, rfl⟩ := last
    exact ⟨opened.opens, .inr ⟨rfl, (List.getLast?_append_of_ne_nil _ nonempty).symm⟩⟩

/-- **Attributes are collected once and for all.**  Written with a space between
neighbours and taken apart into words they are collected again as they are; no word that
looks like an attribute is lost; and only an annotation takes several words, up to the
first behind which its parentheses are closed, or to the last word of all. -/
theorem attributes_laws {ws : List String} (each : ∀ w ∈ ws, IsWord w) :
    attributes (words (join " " (attributes ws))) = attributes ws ∧
      ((attributes ws).flatMap words).filter isAttribute = ws.filter isAttribute ∧
      ∀ done m later, attributes ws = done ++ m :: later → 1 < (words m).length →
        opensAnnotation m = true ∧
          (ClosesLast (words m) ∨ later = [] ∧ (words m).getLast? = ws.getLast?) := by
  refine ⟨?_, filter_attributes each, fun done m later => ends_of_several each⟩
  rw [words_join]
  exact attributes_flatMap_words (formed_attributes each)

/-- A closed annotation with an attribute in it, a word that is dropped, and an annotation
that stays open. -/
theorem attributes_laws_of_two_annotations :
    let ws := ["@relation(fields:", "@x", "b))", "?", "y", "@relation(name:", "@unique", "z"]
    (∀ w ∈ ws, IsWord w) ∧
      attributes ws = ["@relation(fields: @x b))", "?", "@relation(name: @unique z"] ∧
      attributes (words (join " " (attributes ws))) = attributes ws ∧
      ((attributes ws).flatMap words).filter isAttribute = ws.filter isAttribute ∧
      ∀ done m later, attributes ws = done ++ m :: later → 1 < (words m).length →
        opensAnnotation m = true ∧
          (ClosesLast (words m) ∨ later = [] ∧ (words m).getLast? = ws.getLast?) := by
  intro ws
  have each : ∀ w ∈ ws, IsWord w := by decide +kernel
  exact ⟨each, by decide +kernel, attributes_laws each⟩

end SchemaDiagram.Field
