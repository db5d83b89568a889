/-
# SchemaDiagram.Proofs.Schema.Attribute -- the attributes of a declaration

`Complete m` says what an attribute may look like: a lone `?`, a word behind `@`
that opens no annotation, or an annotation, whose words leave more parentheses
open than closed up to its last one, which closes them.  An annotation that the
end of the line cuts off is `Opened`; then it is the last attribute.

The attributes of any words have these forms (`formed_attributes`), and
attributes of these forms are read back from their own words
(`attributes_flatMap_words`).  No word is kept that was not there, and the order
stays (`sublist_attributes`); of the words that look like attributes none is lost
(`filter_attributes`).
-/
import SchemaDiagram.Schema.Field
import SchemaDiagram.Proofs.Text.Search

namespace SchemaDiagram.Field

set_option autoImplicit false

open Text

inductive Complete : String → Prop where
  | optional : Complete "?"
  | plain {word : String} (isWord : IsWord word) (starts : startsWith "@" word = true)
      (opensNone : opensAnnotation word = false) : Complete word
  /-- Every start of the annotation leaves parentheses open. -/
  | enclosed {words : List String} (each : ∀ w ∈ words, IsWord w)
      (opens : opensAnnotation (join " " words) = true)
      (staysOpen : ∀ front, front <+: words → front ≠ [] → front ≠ words →
        0 < depth (join " " front))
      (closes : depth (join " " words) ≤ 0) : Complete (join " " words)

/-- An annotation whose parentheses the words leave open. -/
structure Opened (words : List String) : Prop where
  each : ∀ w ∈ words, IsWord w
  opens : opensAnnotation (join " " words) = true
  staysOpen : ∀ front, front <+: words → front ≠ [] → 0 < depth (join " " front)

inductive Formed : List String → Prop where
  | nil : Formed []
  | pending {words : List String} (opened : Opened words) : Formed [join " " words]
  | cons {m : String} {rest : List String} (complete : Complete m) (formed : Formed rest) :
      Formed (m :: rest)

theorem ne_nil_of_opens {words : List String} (opens : opensAnnotation (join " " words) = true) :
    words ≠ [] := by
  rintro rfl
  revert opens
  decide

theorem opensAnnotation_append (s t : String) :
    opensAnnotation (s ++ " " ++ t) = opensAnnotation s :=
  startsWith_append_blank (by decide) s t

/-- The first word of an annotation opens it. -/
theorem opensAnnotation_first {w : String} {rest : List String}
    (opens : opensAnnotation (join " " (w :: rest)) = true) : opensAnnotation w = true := by
  cases rest with
  | nil => exact opens
  | cons v rest => exact opensAnnotation_append w (join " " (v :: rest)) ▸ opens

theorem isAttribute_of_opens {word : String} (opens : opensAnnotation word = true) :
    isAttribute word = true := by
  have starts : startsWith "@" word = true :=
    startsWith_iff.2 ((by decide : "@".toList <+: "@relation(".toList).trans
      (startsWith_iff.1 opens))
  rw [isAttribute, starts, Bool.true_or]

theorem formed_of_complete {ms : List String} (complete : ∀ m ∈ ms, Complete m) : Formed ms := by
  induction ms with
  | nil => exact .nil
  | cons m rest ih =>
      rw [List.forall_mem_cons] at complete
      exact .cons complete.1 (ih complete.2)

theorem Complete.spaced {m : String} (complete : Complete m) : Spaced m := by
  cases complete with
  | optional => exact IsWord.spaced (by decide)
  | plain isWord _ _ => exact isWord.spaced
  | enclosed each opens _ _ => exact spaced_join_of_forall (ne_nil_of_opens opens) each

theorem Formed.spaced {ms : List String} (formed : Formed ms) : ∀ m ∈ ms, Spaced m := by
  induction formed with
  | nil => simp
  | pending opened =>
      simpa using spaced_join_of_forall (ne_nil_of_opens opened.opens) opened.each
  | cons complete _ ih => exact List.forall_mem_cons.2 ⟨complete.spaced, ih⟩

/-! ## Reading attributes back -/

/-- Words that close the parentheses end the annotation under way. -/
theorem attributesAfter_closing {words : List String} (rest : List String) :
    ∀ {pending : String}, 0 < depth pending →
      (∀ front, front <+: words → front ≠ words → 0 < depth (join " " (pending :: front))) →
      depth (join " " (pending :: words)) ≤ 0 →
      attributesAfter (some pending) (words ++ rest) =
        join " " (pending :: words) :: attributesAfter none rest := by
  induction words with
  | nil =>
      intro pending opened _ closes
      have closed : depth pending ≤ 0 := closes
      omega
  | cons w words ih =>
      intro pending _ staysOpen closes
      rw [List.cons_append, attributesAfter]
      cases words with
      | nil =>
          have closed : ¬ 0 < depth (pending ++ " " ++ w) := Int.not_lt.2 closes
          rw [if_neg closed, List.nil_append]
          rfl
      | cons v words =>
          have longer : 0 < depth (pending ++ " " ++ w) := staysOpen [w] (by simp) (by simp)
          rw [if_pos longer, ih longer (fun front start proper => ?_) (by rwa [join_merge]),
            join_merge]
          rw [join_merge]
          exact staysOpen (w :: front) (List.cons_prefix_cons.2 ⟨rfl, start⟩)
            fun same => proper (List.cons_injective same)

/-- Words that leave the parentheses open are all taken. -/
theorem attributesAfter_open {words : List String} :
    ∀ {pending : String},
      (∀ front, front <+: words → 0 < depth (join " " (pending :: front))) →
      attributesAfter (some pending) words = [join " " (pending :: words)] := by
  induction words with
  | nil => exact fun _ => rfl
  | cons w words ih =>
      intro pending staysOpen
      have longer : 0 < depth (pending ++ " " ++ w) := staysOpen [w] (by simp)
      rw [attributesAfter, if_pos longer, ih fun front start => ?_, join_merge]
      rw [join_merge]
      exact staysOpen (w :: front) (List.cons_prefix_cons.2 ⟨rfl, start⟩)

theorem Complete.attributesAfter_words {m : String} (complete : Complete m)
    (rest : List String) :
    attributesAfter none (words m ++ rest) = m :: attributesAfter none rest := by
  cases complete with
  | optional => rfl
  | plain isWord starts opensNone =>
      rw [words_of_isWord isWord, List.singleton_append, attributesAfter, opensNone]
      simp [isAttribute, starts]
  | @enclosed words each opens staysOpen closes =>
      rw [words_join_of_forall each]
      cases words with
      | nil => exact absurd rfl (ne_nil_of_opens opens)
      | cons w words =>
          cases words with
          | nil =>
              have closed : ¬ 0 < depth w := Int.not_lt.2 closes
              have kept : isAttribute w = true := isAttribute_of_opens opens
              rw [List.singleton_append, attributesAfter]
              simp [closed, kept, join]
          | cons v words =>
              have opened : 0 < depth w := staysOpen [w] (by simp) (by simp) (by simp)
              have first := opensAnnotation_first opens
              rw [List.cons_append, attributesAfter, first, Bool.true_and,
                if_pos (decide_eq_true opened)]
              exact attributesAfter_closing rest opened
                (fun front start proper => staysOpen (w :: front)
                  (List.cons_prefix_cons.2 ⟨rfl, start⟩) (by simp)
                  fun same => proper (List.cons_injective same)) closes

/-- Attributes of these forms are the attributes of their own words. -/
theorem attributes_flatMap_words {ms : List String} (formed : Formed ms) :
    attributes (ms.flatMap words) = ms := by
  induction formed with
  | nil => rfl
  | @pending words opened =>
      obtain ⟨each, opens, staysOpen⟩ := opened
      rw [List.flatMap_singleton, words_join_of_forall each]
      cases words with
      | nil => exact absurd rfl (ne_nil_of_opens opens)
      | cons w words =>
          have first := opensAnnotation_first opens
          have opened : 0 < depth w := staysOpen [w] (by simp) (by simp)
          rw [attributes, attributesAfter, first, Bool.true_and, if_pos (decide_eq_true opened)]
          exact attributesAfter_open fun front start =>
            staysOpen (w :: front) (List.cons_prefix_cons.2 ⟨rfl, start⟩) (by simp)
  | cons complete _ ih =>
      rw [List.flatMap_cons, attributes, complete.attributesAfter_words, ← attributes, ih]

/-! ## Reading on -/

/-- An annotation under way goes on with what follows. -/
theorem attributesAfter_some (ws : List String) :
    ∀ pending, ∃ s rest, attributesAfter (some pending) ws = (pending ++ s) :: rest := by
  induction ws with
  | nil => exact fun _ => ⟨"", [], by rw [attributesAfter, String.append_empty]⟩
  | cons w ws ih =>
      intro pending
      rw [attributesAfter]
      split
      · obtain ⟨s, rest, longer⟩ := ih (pending ++ " " ++ w)
        exact ⟨" " ++ w ++ s, rest, by rw [longer]; simp only [String.append_assoc]⟩
      · exact ⟨" " ++ w, _, by simp only [String.append_assoc]; rfl⟩

/-- Words in front leave attributes that are done, and maybe an annotation under way. -/
theorem attributesAfter_append (front back : List String) :
    ∀ pending, ∃ done pending', attributesAfter pending front = done ++ pending'.toList ∧
      attributesAfter pending (front ++ back) = done ++ attributesAfter pending' back := by
  induction front with
  | nil => exact fun pending => ⟨[], pending, by cases pending <;> rfl, rfl⟩
  | cons w front ih =>
      intro pending
      rw [List.cons_append]
      cases pending with
      | none =>
          rw [attributesAfter, attributesAfter]
          split
          · exact ih (some w)
          · obtain ⟨done, pending', same, longer⟩ := ih none
            split
            · exact ⟨w :: done, pending', by rw [same, List.cons_append],
                by rw [longer, List.cons_append]⟩
            · exact ⟨done, pending', same, longer⟩
      | some pending =>
          rw [attributesAfter, attributesAfter]
          split
          · exact ih _
          · obtain ⟨done, pending', same, longer⟩ := ih none
            exact ⟨_ :: done, pending', by rw [same, List.cons_append],
              by rw [longer, List.cons_append]⟩

/-- The attributes of words start the text of the attributes of more words. -/
theorem join_attributes_start (head front back : List String) :
    (join " " (head ++ attributes front)).toList <+:
      (join " " (head ++ attributes (front ++ back))).toList := by
  obtain ⟨done, pending, same, longer⟩ := attributesAfter_append front back none
  rw [attributes, attributes, same, longer, ← List.append_assoc, ← List.append_assoc]
  cases pending with
  | none =>
      rw [Option.toList_none, List.append_nil]
      exact join_start " " _ _
  | some pending =>
      obtain ⟨s, rest, later⟩ := attributesAfter_some back pending
      rw [later, Option.toList_some]
      exact join_start_longer " " _ pending s rest

/-! ## The form of what is read -/

theorem opened_singleton {w : String} (word : IsWord w) (opens : opensAnnotation w = true)
    (unclosed : 0 < depth w) : Opened [w] where
  each := by simpa using word
  opens := opens
  staysOpen := by
    intro front start nonempty
    rcases List.prefix_concat_iff.1 (show front <+: [] ++ [w] from start) with rfl | start
    · exact unclosed
    · exact absurd (List.prefix_nil.1 start) nonempty

theorem Opened.each_concat {words : List String} (opened : Opened words) {w : String}
    (word : IsWord w) : ∀ v ∈ words ++ [w], IsWord v :=
  List.forall_mem_append.2 ⟨opened.each, List.forall_mem_singleton.2 word⟩

theorem Opened.opens_concat {words : List String} (opened : Opened words) (w : String) :
    opensAnnotation (join " " (words ++ [w])) = true := by
  rw [join_concat " " (ne_nil_of_opens opened.opens), opensAnnotation_append]
  exact opened.opens

theorem Opened.concat {words : List String} (opened : Opened words) {w : String}
    (word : IsWord w) (unclosed : 0 < depth (join " " words ++ " " ++ w)) :
    Opened (words ++ [w]) where
  each := opened.each_concat word
  opens := opened.opens_concat w
  staysOpen := by
    intro front start nonempty
    rcases List.prefix_concat_iff.1 start with rfl | start
    · rwa [join_concat " " (ne_nil_of_opens opened.opens)]
    · exact opened.staysOpen front start nonempty

theorem Opened.complete_concat {words : List String} (opened : Opened words) {w : String}
    (word : IsWord w) (closed : depth (join " " words ++ " " ++ w) ≤ 0) :
    Complete (join " " words ++ " " ++ w) := by
  have whole := join_concat " " (ne_nil_of_opens opened.opens) w
  rw [← whole] at closed ⊢
  refine .enclosed (opened.each_concat word) (opened.opens_concat w)
    (fun front start nonempty proper => ?_) closed
  rcases List.prefix_concat_iff.1 start with same | start
  · exact absurd same proper
  · exact opened.staysOpen front start nonempty

theorem complete_of_isAttribute {w : String} (word : IsWord w) (kept : isAttribute w = true)
    (done : ¬ ( opensAnnotation w && decide (0 < depth w)) = true) : Complete w := by
  rw [Bool.and_eq_true, decide_eq_true_eq, not_and, Int.not_lt] at done
  rw [isAttribute, Bool.or_eq_true, beq_iff_eq] at kept
  rcases kept with starts | rfl
  · cases opens : opensAnnotation w with
    | false => exact .plain word starts opens
    | true =>
        refine @Complete.enclosed [w] (by simpa using word) opens ?_ (done opens)
        intro front start nonempty proper
        rcases List.prefix_concat_iff.1 (show front <+: [] ++ [w] from start) with same | start
        · exact absurd same proper
        · exact absurd (List.prefix_nil.1 start) nonempty
  · exact .optional

/-- What is read from words has these forms, also behind an annotation that is
under way. -/
theorem formed_attributesAfter {ws : List String} (each : ∀ w ∈ ws, IsWord w) :
    Formed (attributesAfter none ws) ∧
      ∀ words, Opened words → Formed (attributesAfter (some (join " " words)) ws) := by
  induction ws with
  | nil => exact ⟨.nil, fun _ opened => .pending opened⟩
  | cons w rest ih =>
      have word := each w List.mem_cons_self
      obtain ⟨idle, under⟩ := ih fun v hv => each v (List.mem_cons_of_mem _ hv)
      constructor
      · rw [attributesAfter]
        split
        · rename_i starts
          rw [Bool.and_eq_true, decide_eq_true_eq] at starts
          exact under [w] (opened_singleton word starts.1 starts.2)
        · rename_i done
          split
          · rename_i kept
            exact .cons (complete_of_isAttribute word kept done) idle
          · exact idle
      · intro words opened
        rw [attributesAfter]
        split
        · rename_i unclosed
          rw [← join_concat " " (ne_nil_of_opens opened.opens)]
          exact under _ (opened.concat word unclosed)
        · rename_i closed
          exact .cons (opened.complete_concat word (Int.not_lt.1 closed)) idle

theorem formed_attributes {ws : List String} (each : ∀ w ∈ ws, IsWord w) :
    Formed (attributes ws) :=
  (formed_attributesAfter each).1

/-! ## Which words are kept -/

theorem sublist_attributesAfter {ws : List String} (each : ∀ w ∈ ws, IsWord w) :
    ((attributesAfter none ws).flatMap words).Sublist ws ∧
      ∀ pending,
        ((attributesAfter (some pending) ws).flatMap words).Sublist (words pending ++ ws) := by
  induction ws with
  | nil => simp [attributesAfter]
  | cons w rest ih =>
      have word := words_of_isWord (each w List.mem_cons_self)
      obtain ⟨idle, under⟩ := ih fun v hv => each v (List.mem_cons_of_mem _ hv)
      constructor
      · rw [attributesAfter]
        split
        · have := under w
          rwa [word] at this
        · split
          · rw [List.flatMap_cons, word]
            exact idle.cons_cons w
          · exact idle.cons w
      · intro pending
        rw [attributesAfter]
        have longer : words (pending ++ " " ++ w) = words pending ++ [w] := by
          rw [words_append_blank, word]
        split
        · have := under (pending ++ " " ++ w)
          rwa [longer, List.append_assoc] at this
        · rw [List.flatMap_cons, longer, List.append_assoc]
          exact (List.Sublist.refl _).append (idle.cons_cons w)

/-- The words of the attributes are among the words of the line, in their order. -/
theorem sublist_attributes {ws : List String} (each : ∀ w ∈ ws, IsWord w) :
    ((attributes ws).flatMap words).Sublist ws :=
  (sublist_attributesAfter each).1

/-- No word that looks like an attribute is lost, be it one or in an annotation. -/
theorem filter_attributesAfter {ws : List String} (each : ∀ w ∈ ws, IsWord w) :
    ((attributesAfter none ws).flatMap words).filter isAttribute = ws.filter isAttribute ∧
      ∀ pending, ((attributesAfter (some pending) ws).flatMap words).filter isAttribute =
        (words pending ++ ws).filter isAttribute := by
  induction ws with
  | nil => simp [attributesAfter]
  | cons w rest ih =>
      have word := words_of_isWord (each w List.mem_cons_self)
      obtain ⟨idle, under⟩ := ih fun v hv => each v (List.mem_cons_of_mem _ hv)
      constructor
      · rw [attributesAfter]
        split
        · rw [under w, word, List.singleton_append]
        · split
          · rw [List.flatMap_cons, word, List.singleton_append, List.filter_cons, idle,
              List.filter_cons]
          · rename_i dropped
            rw [List.filter_cons_of_neg dropped, idle]
      · intro pending
        have longer : words (pending ++ " " ++ w) = words pending ++ [w] := by
          rw [words_append_blank, word]
        rw [attributesAfter]
        split
        · rw [under, longer, List.append_assoc, List.singleton_append]
        · rw [List.flatMap_cons, longer, List.filter_append, idle, ← List.filter_append,
            List.append_assoc, List.singleton_append]

theorem filter_attributes {ws : List String} (each : ∀ w ∈ ws, IsWord w) :
    ((attributes ws).flatMap words).filter isAttribute = ws.filter isAttribute :=
  (filter_attributesAfter each).1

/-- Words that start like an attribute are kept. -/
theorem mem_attributes {ws : List String} (each : ∀ w ∈ ws, IsWord w) {word : String}
    (member : word ∈ ws) (starts : startsWith "@" word = true) :
    word ∈ (attributes ws).flatMap words := by
  have kept : isAttribute word = true := by rw [isAttribute, starts, Bool.true_or]
  have filtered : word ∈ ws.filter isAttribute := List.mem_filter.2 ⟨member, kept⟩
  rw [← filter_attributes each] at filtered
  exact (List.mem_filter.1 filtered).1

end SchemaDiagram.Field
