/-
# SchemaDiagram.Proofs.Check.Formatting -- the first look at a formatted text

A formatted text has a line that opens a model, if there is a model.  The brackets that
it is written with match, so its braces match in number iff those do that it takes over:
the braces inside its names, values and fields (`Schema.excess_render`).

Whether the braces match in the text that was read is of no help.  There the braces of
comments and dropped words count too (`dropped_brace_spoils_format`).  But braces that
open and close blocks are not taken over, and so a formatted text passes if the lines
that were read have no others (`format_valid_iff`).
-/
import SchemaDiagram.Proofs.Check.SchemaText
import SchemaDiagram.Proofs.Schema.FormatStability

namespace SchemaDiagram

set_option autoImplicit false

open Text

/-! ## Texts whose braces match -/

/-- As many opening braces as closing ones. -/
def BracesMatch (text : String) : Prop :=
  count '\x7b' text = count '\x7d' text

instance (text : String) : Decidable (BracesMatch text) :=
  inferInstanceAs (Decidable (_ = _))

theorem braceFindings_eq_nil_iff {text : String} :
    braceFindings text = [] ↔ BracesMatch text := by
  rw [braceFindings, BracesMatch]
  split
  · rename_i same
    exact iff_of_true rfl same
  · rename_i differ
    exact iff_of_false (List.cons_ne_nil _ _) differ

theorem checkSchemaText_valid_iff {text : String} :
    (checkSchemaText text).valid = true ↔
      (∃ line ∈ linesOf text, line.OpensModel) ∧ BracesMatch text := by
  rw [checkSchemaText_valid_iff_errors, errors_checkSchemaText, List.map_eq_nil_iff]
  by_cases empty : trim text = ""
  · rw [checkSchemaText_of_empty empty]
    exact iff_of_false (List.cons_ne_nil _ _) fun parts =>
      trim_ne_empty_of_opensModel parts.1 empty
  · rw [checkSchemaText_of_not_empty empty, List.append_eq_nil_iff, noModelFindings_eq_nil_iff,
      braceFindings_eq_nil_iff]

/-! ## Printed texts -/

/-- What is printed of a field. -/
def Field.texts (f : Field) : List String :=
  f.name :: f.type :: f.modifiers

def Model.texts (m : Model) : List String :=
  m.name :: m.fields.flatMap (·.texts)

def Enumeration.texts (e : Enumeration) : List String :=
  e.name :: e.values

/-- What a printed schema takes over: all but the preamble, the keywords and the brackets
of the blocks. -/
def Schema.texts (s : Schema) : List String :=
  s.enums.flatMap (·.texts) ++ s.models.flatMap (·.texts)

/-- Opening braces less closing ones, in all the texts. -/
def braceExcess (texts : List String) : Int :=
  excess '\x7b' '\x7d' (join "" texts)

theorem braceExcess_cons (s : String) (texts : List String) :
    braceExcess (s :: texts) = excess '\x7b' '\x7d' s + braceExcess texts :=
  excess_join_cons excess_empty s texts

theorem braceExcess_append (texts others : List String) :
    braceExcess (texts ++ others) = braceExcess texts + braceExcess others := by
  induction texts with
  | nil => exact (Int.zero_add _).symm
  | cons s rest ih =>
      rw [List.cons_append, braceExcess_cons, ih, braceExcess_cons, Int.add_assoc]

theorem braceExcess_join {sep : String} (even : excess '\x7b' '\x7d' sep = 0)
    (texts : List String) : excess '\x7b' '\x7d' (join sep texts) = braceExcess texts :=
  excess_join even texts

/-- Texts may be counted as a whole or by what they are made of. -/
theorem braceExcess_flatMap {α : Type} {whole : α → String} {parts : α → List String}
    {items : List α} (each : ∀ a ∈ items, excess '\x7b' '\x7d' (whole a) = braceExcess (parts a)) :
    braceExcess (items.map whole) = braceExcess (items.flatMap parts) := by
  induction items with
  | nil => rfl
  | cons a rest ih =>
      rw [List.forall_mem_cons] at each
      rw [List.map_cons, List.flatMap_cons, braceExcess_cons, braceExcess_append, each.1,
        ih each.2]

theorem bracesMatch_join_iff {texts : List String} :
    BracesMatch (join "" texts) ↔ braceExcess texts = 0 := by
  rw [BracesMatch, ← excess_eq_zero_iff, braceExcess]

theorem excess_renderBlock {keyword : String} (plain : excess '\x7b' '\x7d' keyword = 0)
    (name : String) (lines : List String) :
    excess '\x7b' '\x7d' (renderBlock keyword name lines) = braceExcess (name :: lines) := by
  have indented : braceExcess (lines.map ("  " ++ ·)) = braceExcess lines := by
    have spaces : excess '\x7b' '\x7d' "  " = 0 := by decide
    induction lines with
    | nil => rfl
    | cons line rest ih =>
        rw [List.map_cons, braceExcess_cons, braceExcess_cons, ih, excess_append, spaces,
          Int.zero_add]
  have space : excess '\x7b' '\x7d' " " = 0 := by decide
  have opening : excess '\x7b' '\x7d' " \x7b\n" = 1 := by decide
  have closing : excess '\x7b' '\x7d' "\n\x7d" = -1 := by decide
  rw [renderBlock, excess_append, excess_append, excess_append, excess_append, excess_append,
    braceExcess_join (by decide), indented, plain, space, opening, closing, braceExcess_cons]
  omega

theorem Enumeration.excess_render (e : Enumeration) :
    excess '\x7b' '\x7d' e.render = braceExcess e.texts :=
  excess_renderBlock (by decide) e.name e.values

theorem Field.excess_render (f : Field) : excess '\x7b' '\x7d' f.render = braceExcess f.texts :=
  braceExcess_join (by decide) _

theorem Model.excess_render (m : Model) :
    excess '\x7b' '\x7d' m.render = braceExcess m.texts := by
  rw [render, excess_renderBlock (by decide), braceExcess_cons, texts, braceExcess_cons,
    braceExcess_flatMap fun f _ => f.excess_render]

theorem Schema.excess_render (p : Preamble) (s : Schema) :
    excess '\x7b' '\x7d' (s.render p) =
      excess '\x7b' '\x7d' p.render + braceExcess s.texts := by
  have enums : excess '\x7b' '\x7d' (join "\n\n" (s.enums.map (·.render))) =
      braceExcess (s.enums.flatMap (·.texts)) := by
    rw [braceExcess_join (by decide), braceExcess_flatMap fun e _ => e.excess_render]
  have models : excess '\x7b' '\x7d' (join "\n\n" (s.models.map (·.render))) =
      braceExcess (s.models.flatMap (·.texts)) := by
    rw [braceExcess_join (by decide), braceExcess_flatMap fun m _ => m.excess_render]
  have blankLine : excess '\x7b' '\x7d' "\n\n" = 0 := by decide
  have apart : ∀ text : String,
      excess '\x7b' '\x7d' (if text = "" then "" else text ++ "\n\n") =
        excess '\x7b' '\x7d' text := by
    intro text
    split
    · rename_i empty
      rw [empty]
    · rw [excess_append, blankLine, Int.add_zero]
  rw [render, renderSchema, excess_append, excess_append, apart, enums, models, texts,
    braceExcess_append, Int.add_assoc]

/-! ## What is taken over of a text -/

/-- A line without braces but one that opens a block or one that closes a block. -/
def Line.PlainBraces (line : Line) : Prop :=
  line.kind = .blockClose ∨
    count '\x7d' line.text = 0 ∧ count '\x7b' line.text ≤ if line.kind = .content then 0 else 1

instance (line : Line) : Decidable line.PlainBraces :=
  inferInstanceAs (Decidable (_ ∨ _))

theorem Line.PlainBraces.of_content {line : Line} (plain : line.PlainBraces)
    (content : line.kind = .content) :
    '\x7b' ∉ line.text.toList ∧ '\x7d' ∉ line.text.toList := by
  rw [PlainBraces, content, if_pos rfl, Nat.le_zero] at plain
  obtain ⟨closing, opening⟩ := plain.resolve_left (by decide)
  exact ⟨List.count_eq_zero.1 opening, List.count_eq_zero.1 closing⟩

/-- The brace that opens a block is no part of its name. -/
theorem Line.PlainBraces.of_opening {line : Line} (plain : line.PlainBraces)
    (opening : line.kind ≠ .content ∧ line.kind ≠ .blockClose) (keyword : String) :
    '\x7b' ∉ (blockName keyword line.text).toList ∧
      '\x7d' ∉ (blockName keyword line.text).toList := by
  rw [PlainBraces, if_neg opening.1] at plain
  obtain ⟨noClosing, oneOpening⟩ := plain.resolve_left opening.2
  have behind : (removeFirst keyword line.text).toList.Sublist line.text.toList := by
    rw [removeFirst, String.toList_ofList]
    exact removeFirstChars_sublist keyword.toList line.text.toList
  have named : (blockName keyword line.text).toList ⊆
      (removeFirst keyword line.text).toList.erase '\x7b' := by
    have brace : "\x7b".toList = ['\x7b'] := by decide
    rw [blockName, toList_stripBlanks, removeFirst, brace, removeFirstChars_singleton,
      String.toList_ofList]
    exact (strip_part isBlank _).subset
  constructor
  · intro inside
    have left := List.count_pos_iff.2 (named inside)
    have most := behind.count_le '\x7b'
    rw [List.count_erase_self] at left
    rw [count] at oneOpening
    omega
  · intro inside
    exact List.count_eq_zero.1 noClosing
      (behind.subset (List.mem_of_mem_erase (named inside)))

/-- A field takes over nothing but words of its line. -/
theorem Field.not_mem_of_ofLine? {line : String} {f : Field} (read : ofLine? line = some f)
    {c : Char} (free : isBlank c = false) (absent : c ∉ line.toList) :
    ∀ t ∈ f.texts, c ∉ t.toList := by
  have words := (sublist_of_ofLine? read).subset
  have apart : ∀ w ∈ Text.words line, c ∉ w.toList := fun w inLine inWord =>
    absent ((mem_iff_words free line).2 ⟨w, inLine, inWord⟩)
  intro t member
  rcases List.mem_cons.1 member with rfl | member
  · exact apart _ (words List.mem_cons_self)
  · rcases List.mem_cons.1 member with rfl | modifier
    · exact apart _ (words (List.mem_cons_of_mem _ List.mem_cons_self))
    · intro inside
      obtain ⟨w, inModifier, inWord⟩ := (mem_iff_words free t).1 inside
      exact apart w (words (List.mem_cons_of_mem _ (List.mem_cons_of_mem _
        (List.mem_flatMap.2 ⟨t, modifier, inModifier⟩)))) inWord

namespace Schema

/-- Braces that open and close blocks are not taken over. -/
theorem not_mem_texts {text : String} (resolveBackFields : Bool)
    (plain : ∀ line ∈ linesOf text, line.PlainBraces) :
    ∀ t ∈ (ofText text resolveBackFields).texts, '\x7b' ∉ t.toList ∧ '\x7d' ∉ t.toList := by
  intro t member
  rcases List.mem_append.1 member with inEnum | inModel
  · obtain ⟨e, declared, part⟩ := List.mem_flatMap.1 inEnum
    have stems := Scan.enums_stem _ e declared
    rcases List.mem_cons.1 part with rfl | value
    · obtain ⟨line, inside, kind⟩ := stems.name
      obtain ⟨-, -, sorted⟩ := exists_raw_of_mem_linesOf inside
      rw [kind] at sorted
      rw [(Line.of_enumOpen sorted).2]
      exact (plain line inside).of_opening (by simp [kind]) "enum "
    · obtain ⟨line, inside, kind, rfl⟩ := stems.values t value
      exact (plain line inside).of_content kind
  · obtain ⟨m, declared, part⟩ := List.mem_flatMap.1 inModel
    rcases List.mem_cons.1 part with rfl | inField
    · obtain ⟨line, inside, kind⟩ := exists_opening_of_mem_models declared
      obtain ⟨-, -, sorted⟩ := exists_raw_of_mem_linesOf inside
      rw [kind] at sorted
      rw [(Line.of_modelOpen sorted).2]
      exact (plain line inside).of_opening (by simp [kind]) "model "
    · obtain ⟨f, inside, word⟩ := List.mem_flatMap.1 inField
      obtain ⟨_, ⟨line, inText, kind, rfl⟩, read⟩ := exists_line_of_mem_models declared f inside
      obtain ⟨noOpening, noClosing⟩ := (plain line inText).of_content kind
      exact ⟨Field.not_mem_of_ofLine? read (by decide) noOpening t word,
        Field.not_mem_of_ofLine? read (by decide) noClosing t word⟩

/-! ## Formatting -/

/-- A printed model has a line that opens a model. -/
theorem exists_opening_of_render {s : Schema} (nonempty : s.models ≠ []) (p : Preamble)
    (oneLine : ∀ m ∈ s.models, m.OneLine) : ∃ line ∈ linesOf (s.render p), line.OpensModel := by
  obtain ⟨m, member⟩ := List.exists_mem_of_ne_nil _ nonempty
  have opening : (⟨.modelOpen (printedName m.name), openingLine "model" m.name, 0⟩ : Line) ∈
      statements (s.render p) := by
    rw [render, statements_renderSchema]
    refine List.mem_append_right _ (List.mem_flatMap.2 ⟨m, member, ?_⟩)
    rw [Model.statements_render (oneLine m member), List.cons_append]
    exact List.mem_cons_self
  obtain ⟨raw, piece, read⟩ := List.mem_filterMap.1 opening
  obtain ⟨sorted, -, -⟩ := Line.statement?_eq_some_iff.1 read
  exact any_opensModel_iff.1 (List.any_eq_true.2 ⟨raw, piece, opensModel_iff.2 ⟨_, sorted⟩⟩)

/-- **When a formatted text passes the first look.**  The text that formatting makes of a
text of which a model is read passes exactly if the braces match in what is taken over,
that is, in the names, the values and the fields.  So it passes if the lines of the text
have no braces but those that open or close blocks. -/
theorem format_valid_iff (text : String) (resolveBackFields : Bool) :
    let s := ofText text resolveBackFields
    s.models ≠ [] →
      ((checkSchemaText (s.render {})).valid = true ↔ BracesMatch (join "" s.texts)) ∧
      ((∀ line ∈ linesOf text, line.PlainBraces) →
        (checkSchemaText (s.render {})).valid = true) := by
  intro s nonempty
  have preamble : excess '\x7b' '\x7d' (Preamble.render {}) = 0 := by decide +kernel
  have exactly : (checkSchemaText (s.render {})).valid = true ↔ BracesMatch (join "" s.texts) := by
    have opens := exists_opening_of_render nonempty {} oneLine_models
    rw [checkSchemaText_valid_iff, and_iff_right opens, bracesMatch_join_iff, BracesMatch,
      ← excess_eq_zero_iff, excess_render, preamble, Int.zero_add]
  refine ⟨exactly, fun plain => exactly.2 ?_⟩
  have absent := not_mem_texts resolveBackFields plain
  exact (List.count_eq_zero.2 (not_mem_join "" List.not_mem_nil fun t ht => (absent t ht).1)).trans
    (List.count_eq_zero.2 (not_mem_join "" List.not_mem_nil fun t ht => (absent t ht).2)).symm

/-- A text without a brace for the enum, and with one too many in a comment. -/
theorem format_valid_of_unmatched :
    let text := "// \x7b\nenum E\n  X\n\x7d\nmodel A \x7b\n  e E @default(X)\n\x7d\n\x7d"
    let s := ofText text false
    (checkSchemaText text).valid = false ∧ s.models ≠ [] ∧
      (∀ line ∈ linesOf text, line.PlainBraces) ∧ (checkSchemaText (s.render {})).valid = true := by
  intro text s
  have nonempty : s.models ≠ [] := by decide +kernel
  have plain : ∀ line ∈ linesOf text, line.PlainBraces := by decide +kernel
  exact ⟨by decide +kernel, nonempty, plain, (format_valid_iff text false nonempty).2 plain⟩

/-- The brace of the default value is taken over, the one of the comment is not. -/
theorem dropped_brace_spoils_format :
    let text := "model A \x7b\n  start String @default(\"\x7b\") // closed by \x7d\n\x7d"
    let s := ofText text false
    (checkSchemaText text).valid = true ∧ s.models ≠ [] ∧
      ¬ (checkSchemaText (s.render {})).valid = true := by
  decide +kernel

end Schema

end SchemaDiagram
