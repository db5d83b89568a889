/-
# SchemaDiagram.Proofs.Text.Words -- a text as its words

Everything about words follows from one equation: they split at a blank
(`words_append_blank`).  So the words of joined texts are the words of each in
turn (`words_join`), and a text of words with one space between neighbours is
read back as these words (`words_join_of_forall`).

Words are non-empty and free of blanks (`isWord_of_mem_words`), and together they
are the text without its blanks (`flatten_wordsOf`).
-/
import SchemaDiagram.Text.Search
import SchemaDiagram.Proofs.Text.Trim
import Mathlib.Data.List.Flatten

namespace SchemaDiagram.Text

set_option autoImplicit false

/-- A text that is one word. -/
structure IsWord (s : String) : Prop where
  ne_empty : s ≠ ""
  no_blank : ∀ c ∈ s.toList, isBlank c = false

namespace IsWord

variable {s : String}

instance (s : String) : Decidable (IsWord s) :=
  @decidable_of_iff _ (s ≠ "" ∧ ∀ c ∈ s.toList, isBlank c = false)
    ⟨fun parts => ⟨parts.1, parts.2⟩, fun word => ⟨word.1, word.2⟩⟩
    (@instDecidableAnd _ _ inferInstance (List.decidableBAll _ _))

theorem toList_ne_nil (word : IsWord s) : s.toList ≠ [] :=
  fun empty => word.ne_empty (String.toList_inj.1 empty)

theorem bare (word : IsWord s) : Bare isBlank s.toList :=
  bare_of_forall word.no_blank

theorem blank_not_mem (word : IsWord s) {c : Char} (blank : isBlank c = true) : c ∉ s.toList :=
  fun mem => by simp [word.no_blank c mem] at blank

end IsWord

/-! ## On characters -/

theorem wordsOf_nil : wordsOf [] = [] := rfl

theorem headAndWords_append_blank {b : Char} (blank : isBlank b = true) (xs ys : List Char) :
    headAndWords (xs ++ b :: ys) =
      ((headAndWords xs).1, (headAndWords xs).2 ++ wordsOf ys) := by
  induction xs with
  | nil => simp [headAndWords, wordsOf, blank]
  | cons c cs ih =>
      simp only [List.cons_append, headAndWords, ih]
      split
      · split <;> simp
      · rfl

/-- **Words split at a blank**: a text is the words on its left and those on its right. -/
theorem wordsOf_append_blank {b : Char} (blank : isBlank b = true) (xs ys : List Char) :
    wordsOf (xs ++ b :: ys) = wordsOf xs ++ wordsOf ys := by
  rw [wordsOf, headAndWords_append_blank blank, wordsOf.eq_def xs]
  dsimp only
  split <;> simp

theorem headAndWords_of_no_blank {w : List Char} (free : ∀ c ∈ w, isBlank c = false) :
    headAndWords w = (w, []) := by
  induction w with
  | nil => rfl
  | cons c cs ih =>
      have tail := ih fun d hd => free d (List.mem_cons_of_mem _ hd)
      simp [headAndWords, tail, free c List.mem_cons_self]

theorem wordsOf_word {w : List Char} (nonempty : w ≠ []) (free : ∀ c ∈ w, isBlank c = false) :
    wordsOf w = [w] := by
  simp [wordsOf, headAndWords_of_no_blank free, nonempty]

/-- The run under way and the words after it, each free of blanks; the words are
not empty. -/
theorem headAndWords_spec (cs : List Char) :
    (∀ c ∈ (headAndWords cs).1, isBlank c = false) ∧
      ∀ w ∈ (headAndWords cs).2, w ≠ [] ∧ ∀ c ∈ w, isBlank c = false := by
  induction cs with
  | nil => simp [headAndWords]
  | cons c rest ih =>
      obtain ⟨headFree, restWords⟩ := ih
      simp only [headAndWords]
      cases blank : isBlank c with
      | true =>
          simp only [if_true]
          refine ⟨by simp, fun w hw => ?_⟩
          split at hw
          · exact restWords w hw
          · rename_i started
            rcases List.mem_cons.1 hw with rfl | hw
            · exact ⟨by simpa using started, headFree⟩
            · exact restWords w hw
      | false =>
          simp only [Bool.false_eq_true, if_false]
          refine ⟨fun d hd => ?_, restWords⟩
          rcases List.mem_cons.1 hd with rfl | hd
          · exact blank
          · exact headFree d hd

theorem isWord_of_mem_wordsOf {cs w : List Char} (mem : w ∈ wordsOf cs) :
    w ≠ [] ∧ ∀ c ∈ w, isBlank c = false := by
  obtain ⟨headFree, restWords⟩ := headAndWords_spec cs
  simp only [wordsOf] at mem
  split at mem
  · exact restWords w mem
  · rename_i started
    rcases List.mem_cons.1 mem with rfl | mem
    · exact ⟨by simpa using started, headFree⟩
    · exact restWords w mem

theorem flatten_headAndWords (cs : List Char) :
    (headAndWords cs).1 ++ (headAndWords cs).2.flatten = cs.filter fun c => !isBlank c := by
  induction cs with
  | nil => rfl
  | cons c rest ih =>
      simp only [headAndWords]
      cases blank : isBlank c with
      | true =>
          simp only [if_true, List.nil_append, List.filter_cons, blank, Bool.not_true,
            Bool.false_eq_true, if_false, ← ih]
          split
          · rename_i empty
            rw [List.isEmpty_iff.1 empty, List.nil_append]
          · rfl
      | false => simp [blank, ← ih]

/-- The words are the text without its blanks. -/
theorem flatten_wordsOf (cs : List Char) :
    (wordsOf cs).flatten = cs.filter fun c => !isBlank c := by
  rw [← flatten_headAndWords, wordsOf]
  dsimp only
  split
  · rename_i empty
    rw [List.isEmpty_iff.1 empty, List.nil_append]
  · rfl

theorem eq_of_part {cs ds : List Char} (part : cs <:+: ds) (bare : Bare isBlank ds)
    (kept : (wordsOf ds).Sublist (wordsOf cs)) : cs = ds := by
  obtain ⟨front, back, rfl⟩ := part
  have lengths := kept.flatten.length_le
  simp only [flatten_wordsOf, List.filter_append, List.length_append] at lengths
  have blank (side : List Char)
      (noLetter : (side.filter fun c => !isBlank c).length = 0) : ∀ c ∈ side, isBlank c = true := by
    intro c member
    have absent := List.filter_eq_nil_iff.1 (List.length_eq_zero_iff.1 noLetter) c member
    simpa using absent
  have frontBlank := blank front (by omega)
  have backBlank := blank back (by omega)
  -- An end that is all blank would end the whole text.
  have noFront : front = [] := by
    cases front with
    | nil => rfl
    | cons c front =>
        have := bare.1 c rfl
        rw [frontBlank c List.mem_cons_self] at this
        cases this
  have noBack : back = [] := by
    by_contra nonempty
    have last := bare.2 (back.getLast nonempty) (by
      rw [List.getLast?_append_of_ne_nil _ nonempty]
      exact List.getLast?_eq_some_getLast nonempty)
    rw [backBlank _ (List.getLast_mem nonempty)] at last
    cases last
  rw [noFront, noBack, List.nil_append, List.append_nil]

/-! ## Joined texts -/

section Join

variable (sep : String)

theorem join_merge (s t : String) (rest : List String) :
    join sep ((s ++ sep ++ t) :: rest) = join sep (s :: t :: rest) := by
  cases rest with
  | nil => rfl
  | cons u rest => simp [join, String.append_assoc]

theorem join_cons {rest : List String} (nonempty : rest ≠ []) (s : String) :
    join sep (s :: rest) = s ++ sep ++ join sep rest := by
  cases rest with
  | nil => exact absurd rfl nonempty
  | cons t rest => rw [join]

theorem join_append {front back : List String} (hf : front ≠ []) (hb : back ≠ []) :
    join sep (front ++ back) = join sep front ++ sep ++ join sep back := by
  induction front with
  | nil => exact absurd rfl hf
  | cons s rest ih =>
      cases rest with
      | nil => rw [List.singleton_append, join_cons sep hb, join]
      | cons t rest =>
          have tail := ih (List.cons_ne_nil t rest)
          rw [List.cons_append, join_cons sep (by simp), tail,
            join_cons sep (List.cons_ne_nil t rest) s]
          simp only [String.append_assoc]

theorem join_concat {texts : List String} (nonempty : texts ≠ []) (t : String) :
    join sep (texts ++ [t]) = join sep texts ++ sep ++ t :=
  join_append sep nonempty (List.cons_ne_nil t [])

/-- Texts start their join with more texts. -/
theorem join_start (front back : List String) :
    (join sep front).toList <+: (join sep (front ++ back)).toList := by
  cases front with
  | nil => exact List.nil_prefix
  | cons s front =>
      cases back with
      | nil => rw [List.append_nil]
      | cons t back =>
          rw [join_append sep (List.cons_ne_nil s front) (List.cons_ne_nil t back),
            String.append_assoc, String.toList_append]
          exact List.prefix_append _ _

theorem join_ne_nil {texts : List String} (nonempty : texts ≠ [])
    (each : ∀ s ∈ texts, s.toList ≠ []) : (join sep texts).toList ≠ [] := by
  obtain ⟨s, rest, rfl⟩ := List.exists_cons_of_ne_nil nonempty
  have start : s.toList <+: (join sep (s :: rest)).toList := join_start sep [s] rest
  intro empty
  rw [empty, List.prefix_nil] at start
  exact each s List.mem_cons_self start

/-- So they do if the last of them goes on. -/
theorem join_start_longer (front : List String) (s t : String) (back : List String) :
    (join sep (front ++ [s])).toList <+: (join sep (front ++ (s ++ t) :: back)).toList := by
  have longer := join_start sep (front ++ [s ++ t]) back
  have last : (join sep (front ++ [s ++ t])).toList =
      (join sep (front ++ [s])).toList ++ t.toList := by
    cases front with
    | nil => simp [join]
    | cons u front =>
        rw [join_concat sep (List.cons_ne_nil u front), join_concat sep (List.cons_ne_nil u front)]
        simp
  rw [List.append_assoc, List.singleton_append, last] at longer
  exact (List.prefix_append _ _).trans longer

theorem not_mem_join {c : Char} {texts : List String} (inSep : c ∉ sep.toList)
    (each : ∀ s ∈ texts, c ∉ s.toList) : c ∉ (join sep texts).toList := by
  induction texts with
  | nil => simp [join]
  | cons s rest ih =>
      have here := each s List.mem_cons_self
      have there := ih fun t ht => each t (List.mem_cons_of_mem _ ht)
      cases rest with
      | nil => simpa [join] using here
      | cons t rest => simp [join_cons sep (List.cons_ne_nil t rest), here, there, inSep]

/-- Texts that are not empty and bare at their ends make such a text. -/
theorem join_bare {p : Char → Bool} {texts : List String} (nonempty : texts ≠ [])
    (each : ∀ s ∈ texts, s.toList ≠ [] ∧ Bare p s.toList) :
    (join sep texts).toList ≠ [] ∧ Bare p (join sep texts).toList := by
  induction texts with
  | nil => exact absurd rfl nonempty
  | cons s rest ih =>
      obtain ⟨full, bare⟩ := each s List.mem_cons_self
      cases rest with
      | nil => exact ⟨full, bare⟩
      | cons t rest =>
          obtain ⟨tailFull, tailBare⟩ :=
            ih (List.cons_ne_nil t rest) fun u hu => each u (List.mem_cons_of_mem _ hu)
          rw [join, String.toList_append, String.toList_append, List.append_assoc]
          refine ⟨by simp [full], (bare_append_iff full (by simp [tailFull])).2 ⟨bare.1, ?_⟩⟩
          rw [List.getLast?_append_of_ne_nil _ tailFull]
          exact tailBare.2

end Join

/-! ## Openings and closings -/

section Excess

variable {opening closing : Char}

/-- How many more times `opening` stands in a text than `closing`. -/
def excess (opening closing : Char) (s : String) : Int :=
  (count opening s : Int) - count closing s

theorem excess_eq_zero_iff {s : String} :
    excess opening closing s = 0 ↔ count opening s = count closing s := by
  rw [excess]
  omega

theorem excess_append (s t : String) :
    excess opening closing (s ++ t) = excess opening closing s + excess opening closing t := by
  simp only [excess, count, String.toList_append, List.count_append]
  omega

theorem excess_empty : excess opening closing "" = 0 := by
  rw [excess, count, count, String.toList_empty, List.count_nil, List.count_nil, Int.sub_self]

variable {sep : String}

theorem excess_join_cons (even : excess opening closing sep = 0) (s : String)
    (rest : List String) :
    excess opening closing (join sep (s :: rest)) =
      excess opening closing s + excess opening closing (join sep rest) := by
  cases rest with
  | nil => rw [join, join, excess_empty, Int.add_zero]
  | cons t rest =>
      rw [join_cons sep (List.cons_ne_nil t rest), excess_append, excess_append, even,
        Int.add_zero]

/-- Separators in which the marks match are of no account. -/
theorem excess_join (even : excess opening closing sep = 0) (texts : List String) :
    excess opening closing (join sep texts) = excess opening closing (join "" texts) := by
  induction texts with
  | nil => rfl
  | cons s rest ih => rw [excess_join_cons even, excess_join_cons excess_empty, ih]

end Excess

/-! ## On strings -/

theorem isWord_of_mem_words {s w : String} (mem : w ∈ words s) : IsWord w := by
  obtain ⟨cs, hcs, rfl⟩ := List.mem_map.1 mem
  obtain ⟨nonempty, free⟩ := isWord_of_mem_wordsOf hcs
  exact ⟨fun empty => nonempty (by simpa using congrArg String.toList empty), by simpa using free⟩

theorem map_toList_words (s : String) : (words s).map String.toList = wordsOf s.toList := by
  rw [words, List.map_map]
  exact List.map_id'' (fun _ => String.toList_ofList) _

/-- Every character but the blanks stands in a word. -/
theorem mem_iff_words {c : Char} (free : isBlank c = false) (s : String) :
    c ∈ s.toList ↔ ∃ w ∈ words s, c ∈ w.toList := by
  have kept : c ∈ s.toList ↔ c ∈ s.toList.filter fun c => !isBlank c := by
    rw [List.mem_filter, free]
    exact (and_iff_left rfl).symm
  rw [kept, ← flatten_wordsOf, ← map_toList_words, List.mem_flatten]
  simp

/-- A part of a text with bare ends that has all its words is the whole text. -/
theorem eq_of_part_of_words {s t : String} (part : s.toList <:+: t.toList)
    (bare : Bare isBlank t.toList) (kept : (words t).Sublist (words s)) : s = t := by
  have chars := kept.map String.toList
  rw [map_toList_words, map_toList_words] at chars
  exact String.toList_inj.1 (eq_of_part part bare chars)

theorem words_empty : words "" = [] := rfl

theorem words_of_isWord {s : String} (word : IsWord s) : words s = [s] := by
  rw [words, wordsOf_word word.toList_ne_nil word.no_blank, List.map_singleton,
    String.ofList_toList]

theorem words_append_blank (s t : String) : words (s ++ " " ++ t) = words s ++ words t := by
  have parts : (s ++ " " ++ t).toList = s.toList ++ ' ' :: t.toList := by simp
  rw [words, parts, wordsOf_append_blank space_isBlank, List.map_append, words, words]

theorem words_join (texts : List String) : words (join " " texts) = texts.flatMap words := by
  induction texts with
  | nil => exact words_empty
  | cons s rest ih =>
      cases rest with
      | nil => simp [join]
      | cons t rest => rw [join, words_append_blank, ih, ← List.flatMap_cons]

/-- Words joined by spaces are read back. -/
theorem words_join_of_forall {texts : List String} (each : ∀ s ∈ texts, IsWord s) :
    words (join " " texts) = texts := by
  rw [words_join]
  induction texts with
  | nil => rfl
  | cons s rest ih =>
      rw [List.flatMap_cons, words_of_isWord (each s List.mem_cons_self),
        ih fun t ht => each t (List.mem_cons_of_mem _ ht), List.singleton_append]

/-- Words with one space between neighbours, at least one of them. -/
structure Spaced (s : String) : Prop where
  some_word : words s ≠ []
  join_words : join " " (words s) = s

theorem spaced_join_of_forall {texts : List String} (nonempty : texts ≠ [])
    (each : ∀ s ∈ texts, IsWord s) : Spaced (join " " texts) := by
  have back := words_join_of_forall each
  exact ⟨by rwa [back], by rw [back]⟩

theorem IsWord.spaced {s : String} (word : IsWord s) : Spaced s :=
  @spaced_join_of_forall [s] (by simp) (by simpa using word)

theorem spaced_join {texts : List String} (nonempty : texts ≠ []) (each : ∀ s ∈ texts, Spaced s) :
    Spaced (join " " texts) := by
  suffices whole : texts.flatMap words ≠ [] ∧
      join " " (texts.flatMap words) = join " " texts by
    rw [← whole.2]
    exact spaced_join_of_forall whole.1 fun w hw => by
      obtain ⟨s, -, hw⟩ := List.mem_flatMap.1 hw
      exact isWord_of_mem_words hw
  induction texts with
  | nil => exact absurd rfl nonempty
  | cons s rest ih =>
      obtain ⟨word, joined⟩ := each s List.mem_cons_self
      rw [List.flatMap_cons]
      cases rest with
      | nil => simpa [join] using ⟨word, joined⟩
      | cons t rest =>
          obtain ⟨others, tail⟩ :=
            ih (List.cons_ne_nil t rest) fun u hu => each u (List.mem_cons_of_mem _ hu)
          exact ⟨by simp [word], by rw [join_append _ word others, joined, tail, join]⟩

namespace Spaced

variable {s : String}

theorem bare (spaced : Spaced s) : Bare isBlank s.toList := by
  rw [← spaced.join_words]
  exact (join_bare " " spaced.some_word fun w hw =>
    ⟨(isWord_of_mem_words hw).toList_ne_nil, (isWord_of_mem_words hw).bare⟩).2

theorem lineEnd_not_mem (spaced : Spaced s) : '\n' ∉ s.toList := by
  rw [← spaced.join_words]
  exact not_mem_join " " (by decide) fun w hw => (isWord_of_mem_words hw).blank_not_mem (by decide)

end Spaced

end SchemaDiagram.Text
