/-
# SchemaDiagram.Proofs.Schema.Declaration -- a field as it is printed and read

A field that was read has two words as its name and its type, and formed
attributes (`worded_of_ofLine?`).  Such a field is printed as words with single
spaces between them, and reading them gives its name, its type and its attributes
again (`ofLine?_render`).

What the printed line counts as depends on the name alone
(`kind?_render_eq_content_iff`): it is content unless the name is a keyword or
starts like a line that is skipped.
-/
import SchemaDiagram.Proofs.Schema.Attribute
import SchemaDiagram.Proofs.Schema.Statement

namespace SchemaDiagram.Field

set_option autoImplicit false

open Text

/-! ## Reading -/

theorem ofLine?_eq_some_iff {line : String} {f : Field} :
    ofLine? line = some f ↔
      ∃ name type rest, words line = name :: type :: rest ∧
        f = ofParts name type (attributes rest)
          (contains "@relation" line || isModelType type) := by
  rw [ofLine?]
  split
  · rename_i name type rest cut
    rw [cut, Option.some.injEq]
    constructor
    · rintro rfl
      exact ⟨name, type, rest, rfl, rfl⟩
    · rintro ⟨_, _, _, same, rfl⟩
      cases same
      rfl
  · rename_i short
    constructor
    · intro found
      cases found
    · rintro ⟨name, type, rest, cut, -⟩
      exact absurd cut (short name type rest)

/-- Two words as name and type, and formed attributes. -/
structure Worded (f : Field) : Prop where
  name : IsWord f.name
  type : IsWord f.type
  formed : Formed f.modifiers

theorem worded_of_ofLine? {line : String} {f : Field} (read : ofLine? line = some f) :
    f.Worded := by
  obtain ⟨name, type, rest, cut, rfl⟩ := ofLine?_eq_some_iff.1 read
  have each : ∀ w ∈ name :: type :: rest, IsWord w := fun w hw =>
    isWord_of_mem_words (cut ▸ hw)
  exact ⟨each name (by simp), each type (by simp),
    formed_attributes fun w hw => each w (by simp [hw])⟩

/-- The words of the attributes of a line are among its words behind the type. -/
theorem sublist_of_ofLine? {line : String} {f : Field} (read : ofLine? line = some f) :
    (f.name :: f.type :: f.modifiers.flatMap words).Sublist (words line) := by
  obtain ⟨name, type, rest, cut, rfl⟩ := ofLine?_eq_some_iff.1 read
  have each : ∀ w ∈ rest, IsWord w := fun w hw =>
    isWord_of_mem_words (s := line) (by simp [cut, hw])
  rw [cut]
  exact ((sublist_attributes each).cons_cons type).cons_cons name

/-! ## Printing -/

theorem render_eq (f : Field) :
    f.render = f.name ++ " " ++ join " " (f.type :: f.modifiers) := rfl

namespace Worded

variable {f : Field}

theorem spaced_render (worded : f.Worded) : Spaced f.render :=
  spaced_join (by simp) (List.forall_mem_cons.2
    ⟨worded.name.spaced, List.forall_mem_cons.2 ⟨worded.type.spaced, worded.formed.spaced⟩⟩)

theorem words_render (worded : f.Worded) :
    words f.render = f.name :: f.type :: f.modifiers.flatMap words := by
  rw [render, words_join, List.flatMap_cons, List.flatMap_cons, words_of_isWord worded.name,
    words_of_isWord worded.type]
  rfl

theorem contains_render_iff (worded : f.Worded) {key : String} (word : IsWord key) :
    contains key f.render = true ↔
      contains key f.name = true ∨ contains key f.type = true ∨
        f.modifiers.any (contains key) = true := by
  have inModifiers : (∃ w ∈ f.modifiers.flatMap words, contains key w = true) ↔
      f.modifiers.any (contains key) = true := by
    simp only [List.any_eq_true, List.mem_flatMap]
    constructor
    · rintro ⟨w, ⟨m, hm, hw⟩, inside⟩
      exact ⟨m, hm, (contains_iff_words word m).2 ⟨w, hw, inside⟩⟩
    · rintro ⟨m, hm, inside⟩
      obtain ⟨w, hw, inside⟩ := (contains_iff_words word m).1 inside
      exact ⟨w, ⟨m, hm, hw⟩, inside⟩
  rw [contains_iff_words word, worded.words_render, ← inModifiers]
  simp only [List.exists_mem_cons_iff]

/-- Reading a printed field gives its parts again. -/
theorem ofLine?_render (worded : f.Worded) :
    ofLine? f.render = some (ofParts f.name f.type f.modifiers
      (contains "@relation" f.render || isModelType f.type)) := by
  rw [ofLine?_eq_some_iff]
  exact ⟨_, _, _, worded.words_render, by rw [attributes_flatMap_words worded.formed]⟩

/-! ## How a printed field counts -/

theorem startsWith_render {key : String} (free : ' ' ∉ key.toList) :
    startsWith key f.render = startsWith key f.name := by
  rw [render_eq, startsWith_append_blank free]

theorem startsWith_keyword_iff (worded : f.Worded) (key : String) (free : ' ' ∉ key.toList) :
    startsWith (key ++ " ") f.render = true ↔ f.name = key := by
  have parts : f.render.toList =
      f.name.toList ++ ' ' :: (join " " (f.type :: f.modifiers)).toList := by
    simp [render_eq]
  have keyword : (key ++ " ").toList = key.toList ++ [' '] := by simp
  rw [startsWith_iff, parts, keyword,
    word_prefix_iff free (worded.name.blank_not_mem (by decide)), String.toList_inj, eq_comm]

theorem kind?_render_eq_content_iff (worded : f.Worded) :
    Line.kind? f.render = some .content ↔
      (∀ key ∈ Line.skippedStarts, startsWith key f.name = false) ∧ f.name ≠ "enum" ∧
        f.name ≠ "model" := by
  have full : f.render ≠ "" := by
    intro empty
    have cut := worded.words_render
    rw [empty, words_empty] at cut
    simp at cut
  have notClosing : f.render ≠ "\x7d" := by
    intro same
    have cut := worded.words_render
    rw [same, words_of_isWord (by decide)] at cut
    simp at cut
  have starts : ∀ key ∈ Line.skippedStarts, startsWith key f.render = startsWith key f.name :=
    fun key member => startsWith_render (by revert key; decide)
  have apart : "enum" ++ " " = "enum " ∧ "model" ++ " " = "model " := by decide
  have enum := worded.startsWith_keyword_iff "enum" (by decide)
  have model := worded.startsWith_keyword_iff "model" (by decide)
  rw [apart.1] at enum
  rw [apart.2] at model
  have skipped : (∀ key ∈ Line.skippedStarts, startsWith key f.render = false) ↔
      ∀ key ∈ Line.skippedStarts, startsWith key f.name = false :=
    forall₂_congr fun key member => by rw [starts key member]
  rw [Line.kind?_eq_content_iff, skipped, ← Bool.not_eq_true, enum, ← Bool.not_eq_true, model]
  exact ⟨fun ⟨_, kept, notEnum, notModel, _⟩ => ⟨kept, notEnum, notModel⟩,
    fun ⟨kept, notEnum, notModel⟩ => ⟨full, kept, notEnum, notModel, notClosing⟩⟩

end Worded

/-- No name of a field starts like a line that is skipped. -/
theorem name_not_skipped {line : String} (bare : Bare isBlank line.toList)
    (content : Line.kind? line = some .content) {f : Field} (read : ofLine? line = some f) :
    ∀ key ∈ Line.skippedStarts, startsWith key f.name = false := by
  obtain ⟨name, type, rest, cut, rfl⟩ := ofLine?_eq_some_iff.1 read
  intro key member
  have first := prefix_of_words_cons bare cut
  have kept := (Line.kind?_eq_content_iff.1 content).2.1 key member
  rw [Bool.eq_false_iff, Ne, startsWith_iff] at kept ⊢
  exact fun starts => kept (starts.trans first)

end SchemaDiagram.Field
