/-
# SchemaDiagram.Proofs.Schema.FormatEdges -- the edges of a formatted text

Relations are read from whole lines, but only names, types and attributes are
printed.  A line is `Legible` if that loses nothing of its relation: the words that
are dropped mention no relation, annotations are kept whole, and columns hold single
spaces only.

If the lines of a settled schema are legible, and blocks without an end add no
relation, formatting keeps the schema, its edges included (`edges_format`).  A
comment that mentions a relation is lost, and the edge changes
(`comment_changes_edge`).
-/
import SchemaDiagram.Proofs.Schema.FormatStability
import SchemaDiagram.Proofs.Schema.KeptAnnotation

namespace SchemaDiagram

set_option autoImplicit false

open Text RelationArgs

namespace Field

/-- The printed field says of its relation what the line says. -/
structure Legible (line : String) : Prop where
  /-- If a relation is mentioned at all, then in a word that is kept, or it makes no
  difference as the type refers to many or to an optional model. -/
  mentions : contains "@relation" line = true →
    (∃ w ∈ (words line).take 2, contains "@relation" w = true) ∨
      (∃ w ∈ (words line).drop 2, startsWith "@" w = true ∧ contains "@relation" w = true) ∨
        ∃ f, ofLine? line = some f ∧ isModelType f.type = true ∧
          (f.isList || f.isOptional) = true
  /-- An annotation that opens in the name or the type ends in them. -/
  head : Closed (join " " ((words line).take 2)).toList
  /-- Annotations are kept whole, at least up to the first one with arguments. -/
  annotations : ∃ front, front <+: (words line).drop 2 ∧ (∀ w ∈ front, Keeps w) ∧
    (front = (words line).drop 2 ∨
      argumentsIn (join " " ((words line).take 2 ++ front)).toList ≠ none)
  fields : ∀ column ∈ (RelationArgs.ofLine line).fields, squeeze column.toList = column.toList
  references : ∀ column ∈ (RelationArgs.ofLine line).references,
    squeeze column.toList = column.toList

namespace Legible

variable {line : String} {f : Field}

/-- The printed field has the arguments of the line. -/
theorem ofLine_render (legible : Legible line) (bare : Bare isBlank line.toList)
    (read : ofLine? line = some f) : RelationArgs.ofLine f.render = RelationArgs.ofLine line := by
  rw [← ofLine_join_words bare legible.fields legible.references]
  obtain ⟨front, ⟨back, whole⟩, keeps, last⟩ := legible.annotations
  have head := legible.head
  obtain ⟨name, type, rest, cut, rfl⟩ := ofLine?_eq_some_iff.1 read
  have each : ∀ w ∈ words line, IsWord w := fun w member => isWord_of_mem_words member
  rw [cut] at whole head last each
  have behind : front ++ back = rest := whole
  have eachFront : ∀ w ∈ front, IsWord w := fun w member =>
    each w (by simp [← behind, member])
  have same := argumentsIn_attributes (List.cons_ne_nil _ _) head eachFront keeps
    (last.imp_left fun all => List.append_right_eq_self.1 (behind.trans all.symm))
  rw [behind] at same
  rw [RelationArgs.ofLine_eq, RelationArgs.ofLine_eq, cut]
  exact congrArg (fun found => (Option.map ofArguments found).getD {}) same

/-- The printed field mentions a relation like the line, unless that makes no
difference. -/
theorem mentions_render (legible : Legible line) (read : ofLine? line = some f) :
    contains "@relation" f.render = contains "@relation" line ∨
      isModelType f.type = true ∧ (f.isList || f.isOptional) = true := by
  have key : IsWord "@relation" := by decide
  have part := sublist_of_ofLine? read
  have printed := contains_iff_words key f.render
  rw [(worded_of_ofLine? read).words_render] at printed
  cases mentioned : contains "@relation" line with
  | false =>
      left
      rw [Bool.eq_false_iff, Ne, printed]
      rintro ⟨w, member, mentions⟩
      have inLine := (contains_iff_words key line).2 ⟨w, part.subset member, mentions⟩
      rw [mentioned] at inLine
      cases inLine
  | true =>
      rcases legible.mentions mentioned with ⟨w, member, mentions⟩ | ⟨w, member, starts, mentions⟩ |
        ⟨g, read', model⟩
      · obtain ⟨name, type, rest, cut, rfl⟩ := ofLine?_eq_some_iff.1 read
        rw [cut] at member
        have kept : w ∈ [name, type] ++ (Field.attributes rest).flatMap words :=
          List.mem_append_left _ member
        exact .inl (printed.2 ⟨w, kept, mentions⟩)
      · obtain ⟨name, type, rest, cut, rfl⟩ := ofLine?_eq_some_iff.1 read
        have each : ∀ w ∈ rest, IsWord w := fun w member =>
          isWord_of_mem_words (s := line) (by simp [cut, member])
        rw [cut] at member
        have kept := mem_attributes each member starts
        exact .inl (printed.2 ⟨w, List.mem_cons_of_mem _ (List.mem_cons_of_mem _ kept), mentions⟩)
      · rw [read, Option.some.injEq] at read'
        exact .inr (read' ▸ model)

/-- Reading the printed field gives the field, its relation flags included. -/
theorem ofLine?_render (legible : Legible line) (read : ofLine? line = some f) :
    ofLine? f.render = some f := by
  rw [(worded_of_ofLine? read).ofLine?_render]
  have same := legible.mentions_render read
  obtain ⟨name, type, rest, cut, rfl⟩ := ofLine?_eq_some_iff.1 read
  rcases same with same | ⟨model, -⟩
  · rw [same]
    rfl
  · have model : isModelType type = true := model
    simp [ofParts, model]

theorem cardinality_render (legible : Legible line) (read : ofLine? line = some f) :
    Cardinality.ofField f f.render = Cardinality.ofField f line := by
  rw [Cardinality.ofField, Cardinality.ofField]
  rcases legible.mentions_render read with same | ⟨-, many⟩
  · rw [same]
  · rw [Bool.or_eq_true] at many
    rcases many with list | optional
    · rw [if_pos list, if_pos list]
    · rw [if_pos optional, ite_self, ite_self]

/-- **A legible line and the field printed for it declare the same relation.** -/
theorem relationAt?_render (legible : Legible line) (bare : Bare isBlank line.toList)
    (read : ofLine? line = some f) (name : String) :
    ModelBlock.relationAt? name f.render = ModelBlock.relationAt? name line := by
  rw [ModelBlock.relationAt?, ModelBlock.relationAt?, legible.ofLine?_render read, read,
    Option.bind_some, Option.bind_some, Scan.relationOf?, Scan.relationOf?, Relation.ofField,
    Relation.ofField, legible.ofLine_render bare read, legible.cardinality_render read]

end Legible

end Field

/-! ## Formatted schemas -/

/-- What keeps the edges of a text when it is formatted. -/
structure Schema.Kept (text : String) : Prop where
  /-- Blocks without an end add no relation. -/
  unclosed : ∀ b ∈ modelBlocks (linesOf text), b.closed = false → b.relations = []
  legible : ∀ b ∈ modelBlocks (linesOf text), b.closed = true →
    ∀ line ∈ b.lines, Field.Legible line

namespace ModelBlock

variable {b : ModelBlock}

/-- What the block that is printed for a block gives, line by line. -/
theorem filterMap_printedBlock {α : Type} {read : String → Option α}
    (settled : b.model.Settled) (lines : ∀ line ∈ b.lines, ReadLine line)
    (same : ∀ line ∈ b.lines, ∀ f, Field.ofLine? line = some f → read f.render = read line)
    (undeclared : ∀ line, Field.ofLine? line = none → read line = none) :
    b.model.printedBlock.lines.filterMap read = b.lines.filterMap read := by
  rw [Model.printedBlock, model, List.filterMap_map, List.filterMap_filterMap]
  refine List.filterMap_congr fun line member => ?_
  cases declared : Field.ofLine? line with
  | none => rw [Option.bind_none, undeclared line declared]
  | some f =>
      have inside : f ∈ b.model.fields := List.mem_filterMap.2 ⟨line, member, declared⟩
      have readField : ReadField f := ⟨line, lines line member, declared⟩
      have marks := settled.fields f inside
      rw [Option.bind_some, Function.comp_apply,
        readField.trim_render_iff.2 ⟨marks.starts, marks.ends⟩, same line member f declared]

variable (settled : b.model.Settled) (name : ReadName b.name)
  (lines : ∀ line ∈ b.lines, ReadLine line) (legible : ∀ line ∈ b.lines, Field.Legible line)

include settled name lines legible

theorem reread_model : b.model.reread = b.model := by
  have fields := filterMap_printedBlock settled lines
    (fun line member f declared => by
      rw [(legible line member).ofLine?_render declared, declared]) fun _ undeclared => undeclared
  have named : printedName b.name = b.name := name.printedName_iff.2 settled.name
  rw [Model.reread, model, fields]
  exact congrArg (Model.mk · _) named

theorem relations_printedBlock : b.model.printedBlock.relations = b.relations := by
  have named : b.model.printedBlock.name = b.name := name.printedName_iff.2 settled.name
  rw [relations, named, relations]
  exact filterMap_printedBlock settled lines
    (fun line member f declared =>
      (legible line member).relationAt?_render (lines line member).bare declared b.name)
    fun line undeclared => by rw [relationAt?, undeclared, Option.bind_none]

end ModelBlock

namespace Schema

variable {text : String} {resolveBackFields : Bool}

/-- The closed blocks add all relations if the others add none. -/
theorem flatMap_relations_closed {blocks : List ModelBlock}
    (unclosed : ∀ b ∈ blocks, b.closed = false → b.relations = []) :
    blocks.flatMap (·.relations) = (blocks.filter (·.closed)).flatMap (·.relations) := by
  induction blocks with
  | nil => rfl
  | cons b rest ih =>
      rw [List.forall_mem_cons] at unclosed
      rw [List.flatMap_cons, List.filter_cons, ih unclosed.2]
      cases closed : b.closed with
      | true => rfl
      | false => simp [unclosed.1 closed]

/-- Formatting a text keeps the schema, if it is settled and its lines are legible. -/
theorem ofText_render (settled : (ofText text resolveBackFields).Settled) (kept : Kept text) :
    ofText ((ofText text resolveBackFields).render {}) resolveBackFields =
      ofText text resolveBackFields := by
  have blocks : (ofText text resolveBackFields).models =
      ((modelBlocks (linesOf text)).filter (·.closed)).map (·.model) := by
    rw [models_ofText, Scan.models_run]
  have known : ∀ b ∈ (modelBlocks (linesOf text)).filter (·.closed), b.model.Settled ∧
      ReadName b.name ∧ (∀ line ∈ b.lines, ReadLine line) ∧
        ∀ line ∈ b.lines, Field.Legible line := by
    intro b member
    obtain ⟨inside, closed⟩ := List.mem_filter.1 member
    have inModels : b.model ∈ (ofText text resolveBackFields).models := by
      rw [blocks]
      exact List.mem_map_of_mem member
    exact ⟨settled.models _ inModels, readName_of_mem_models inModels,
      fun line inBlock => readLine_of_mem ((ModelBlock.stems_of_mem inside).lines line inBlock),
      kept.legible b inside closed⟩
  have models : (ofText text resolveBackFields).models.map (·.reread) =
      (ofText text resolveBackFields).models := by
    rw [blocks, List.map_map]
    refine List.map_congr_left fun b member => ?_
    obtain ⟨settled, name, lines, legible⟩ := known b member
    exact ModelBlock.reread_model settled name lines legible
  have relations : (ofText text resolveBackFields).models.flatMap (·.printedBlock.relations) =
      (Scan.run (linesOf text)).relations := by
    rw [blocks, List.flatMap_map, Scan.relations_run, flatMap_relations_closed kept.unclosed]
    refine List.flatMap_congr fun b member => ?_
    obtain ⟨settled, name, lines, legible⟩ := known b member
    exact ModelBlock.relations_printedBlock settled name lines legible
  have again := run_render_of_settled settled
  rw [models, relations] at again
  rw [ofText, again]
  rfl

/-- **Formatting keeps the edges** if the schema is settled, so that it is read back as it
is printed, every line of a closed model block says of its relation only what is printed
of it, and no block without an end has a relation. -/
theorem edges_format (text : String) (resolveBackFields : Bool)
    (settled : (ofText text resolveBackFields).Settled) (kept : Kept text) :
    (ofText ((ofText text resolveBackFields).render {}) resolveBackFields).edges =
      (ofText text resolveBackFields).edges := by
  rw [ofText_render settled kept]

/-- An annotation of several words in front of a comment, and a list with a comment
that mentions the relation. -/
theorem edges_format_comments :
    (ofText ((ofText "model A \x7b\n  b B @relation(fields: [x, y]) // by\n  c C[] //@relation\n\x7d"
      true).render {}) true).edges =
    (ofText "model A \x7b\n  b B @relation(fields: [x, y]) // by\n  c C[] //@relation\n\x7d"
      true).edges := by
  have blocks : modelBlocks (linesOf
        "model A \x7b\n  b B @relation(fields: [x, y]) // by\n  c C[] //@relation\n\x7d") =
      [⟨"A", ["b B @relation(fields: [x, y]) // by", "c C[] //@relation"], true⟩] := by
    decide +kernel
  have enums : (ofText
      "model A \x7b\n  b B @relation(fields: [x, y]) // by\n  c C[] //@relation\n\x7d"
      true).enums = [] := by
    decide +kernel
  refine edges_format _ true ⟨?_, ?_⟩ ⟨?_, ?_⟩
  · rw [models_ofText, Scan.models_run, blocks]
    have read : (List.map ModelBlock.model (List.filter (·.closed)
        [⟨"A", ["b B @relation(fields: [x, y]) // by", "c C[] //@relation"], true⟩])) =
        [⟨"A", [⟨"b", "B", ["@relation(fields: [x, y])"], true, some "B"⟩,
          ⟨"c", "C[]", [], true, some "C"⟩]⟩] := by
      decide +kernel
    rw [read]
    rintro m (_ | ⟨_, ⟨⟩⟩)
    refine ⟨.inl (by decide), ?_⟩
    rintro f (_ | ⟨_, _ | ⟨_, ⟨⟩⟩⟩) <;> exact ⟨by decide, by decide, by decide, by decide⟩
  · rw [enums]
    simp
  · rw [blocks]
    simp
  · rw [blocks]
    rintro b (_ | ⟨_, ⟨⟩⟩) - line (_ | ⟨_, _ | ⟨_, ⟨⟩⟩⟩)
    · exact ⟨fun _ => .inr (.inl (by decide +kernel)), by decide +kernel,
        ⟨_, List.prefix_rfl, by decide +kernel, .inl rfl⟩, by decide +kernel, by decide +kernel⟩
    · exact ⟨fun _ => .inr (.inr ⟨⟨"c", "C[]", [], true, some "C"⟩, by decide +kernel⟩),
        by decide +kernel, ⟨_, List.prefix_rfl, by decide +kernel, .inl rfl⟩, by decide +kernel,
        by decide +kernel⟩

/-- A comment that mentions a relation is not printed again, and the edge is not
drawn as before. -/
theorem comment_changes_edge :
    ¬ (ofText ((ofText "model A \x7b\n  b B //@relation\n\x7d" true).render {}) true).edges =
      (ofText "model A \x7b\n  b B //@relation\n\x7d" true).edges := by
  decide +kernel

end Schema

end SchemaDiagram
