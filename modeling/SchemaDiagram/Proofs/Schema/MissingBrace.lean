/-
# SchemaDiagram.Proofs.Schema.MissingBrace -- a block that is not closed

A row of closed blocks is read as these blocks (`has_blocks`).  Without the closing
brace of one of them, that block is lost if it is the last one.  Else all depends on it
and the next one, behind which the scan gets to a brace again (`leftOpen`,
`reads_textWithoutBrace`):

* a block of the same sort takes the place of the open one, which is lost;
* an enum behind an open model ends both, and nothing is lost;
* a model behind an open enum ends both too, but what stands inside the model goes to
  the enum.

So the other blocks get what is theirs exactly if no content stands in a model behind
the open enum (`reads_others_iff`).
-/
import SchemaDiagram.Proofs.Schema.Extent
import SchemaDiagram.Proofs.Schema.Reread

namespace SchemaDiagram

set_option autoImplicit false

open Text

/-- A block as it stands in a text: a line that opens it and lines of content. -/
structure SourceBlock where
  sort : BlockSort
  name : String
  opener : String
  content : List String
  opens : Line.kind? (trim opener) = some (sort.opening name)
  counts : ∀ raw ∈ content, Line.IsContent raw
  oneLine : ∀ raw ∈ opener :: content, '\n' ∉ raw.toList

namespace SourceBlock

/-- The lines of the block without its closing brace. -/
def openLines (b : SourceBlock) : List String :=
  b.opener :: b.content

def lines (b : SourceBlock) : List String :=
  b.openLines ++ ["\x7d"]

/-- The text of the blocks, without the line that closes `b`. -/
def textWithoutBrace (before : List SourceBlock) (b : SourceBlock) (after : List SourceBlock) :
    String :=
  join "\n" (before.flatMap lines ++ (b.openLines ++ after.flatMap lines))

def model? (b : SourceBlock) : Option Model :=
  match b.sort with
  | .model => some (.ofContent b.name (b.content.map trim))
  | .enum => none

def enum? (b : SourceBlock) : Option Enumeration :=
  match b.sort with
  | .model => none
  | .enum => some { name := b.name, values := b.content.map trim }

/-- The block with the content of another one behind its own. -/
def taking (b other : SourceBlock) : SourceBlock :=
  { b with
    content := b.content ++ other.content
    counts := fun raw inside =>
      (List.mem_append.1 inside).elim (b.counts raw) (other.counts raw)
    oneLine := fun raw inside => by
      rw [← List.cons_append, List.mem_append] at inside
      exact inside.elim (b.oneLine raw) fun there =>
        other.oneLine raw (List.mem_cons_of_mem _ there) }

def emptied (b : SourceBlock) : SourceBlock :=
  { b with
    content := []
    counts := fun _ inside => absurd inside List.not_mem_nil
    oneLine := fun raw inside =>
      b.oneLine raw (List.mem_cons.2 (.inl (List.mem_singleton.1 inside))) }

/-- The blocks that are read in place of `b`, left open, and of those below it. -/
def leftOpen (b : SourceBlock) : List SourceBlock → List SourceBlock
  | [] => []
  | next :: below =>
      match b.sort, next.sort with
      | .model, .enum => b :: next :: below
      | .enum, .model => b.taking next :: next.emptied :: below
      | .model, .model | .enum, .enum => next :: below

end SourceBlock

/-- The schema has these blocks, in this order within their sort, each with its own
content, and no other ones. -/
structure Schema.Reads (s : Schema) (blocks : List SourceBlock) : Prop where
  models : s.models = blocks.filterMap (·.model?)
  enums : s.enums = blocks.filterMap (·.enum?)

/-! ## Statements of blocks -/

namespace SourceBlock

theorem filterMap_openLines (b : SourceBlock) :
    b.openLines.filterMap Line.statement? =
      ⟨b.sort.opening b.name, trim b.opener, 0⟩ ::
        (b.content.map trim).map fun text => ⟨.content, text, 0⟩ := by
  rw [openLines, List.filterMap_cons_some (Line.statement?_of_kind b.opens),
    Line.filterMap_statement? b.counts, List.map_map]
  rfl

theorem filterMap_lines (b : SourceBlock) :
    b.lines.filterMap Line.statement? = b.openLines.filterMap Line.statement? ++ [closingLine] := by
  rw [lines, List.filterMap_append, List.filterMap_cons_some Line.statement?_closing]
  rfl

theorem lineEnd_not_mem_flatMap_lines {blocks : List SourceBlock} {raw : String}
    (inside : raw ∈ blocks.flatMap lines) : '\n' ∉ raw.toList := by
  obtain ⟨b, -, inLines⟩ := List.mem_flatMap.1 inside
  rcases List.mem_append.1 inLines with own | closing
  · exact b.oneLine raw own
  · rw [List.mem_singleton.1 closing]
    decide

theorem statements_textWithoutBrace (before : List SourceBlock) (b : SourceBlock)
    (after : List SourceBlock) :
    statements (textWithoutBrace before b after) =
      (before.flatMap lines).filterMap Line.statement? ++
        (b.openLines ++ after.flatMap lines).filterMap Line.statement? := by
  have each : ∀ raw ∈ before.flatMap lines ++ (b.openLines ++ after.flatMap lines),
      '\n' ∉ raw.toList := by
    intro raw inside
    rcases List.mem_append.1 inside with above | inside
    · exact lineEnd_not_mem_flatMap_lines above
    rcases List.mem_append.1 inside with own | below
    · exact b.oneLine raw own
    · exact lineEnd_not_mem_flatMap_lines below
  rw [textWithoutBrace, statements_join_lineEnd each, List.filterMap_append]

/-! ## Models and enums of blocks -/

section

variable {b : SourceBlock}

theorem model?_of_model (sort : b.sort = .model) :
    b.model? = some (.ofContent b.name (b.content.map trim)) := by
  rw [model?, sort]

theorem model?_of_enum (sort : b.sort = .enum) : b.model? = none := by
  rw [model?, sort]

theorem enum?_of_model (sort : b.sort = .model) : b.enum? = none := by
  rw [enum?, sort]

theorem enum?_of_enum (sort : b.sort = .enum) :
    b.enum? = some { name := b.name, values := b.content.map trim } := by
  rw [enum?, sort]

theorem model?_emptied (sort : b.sort = .model) : b.emptied.model? = some { name := b.name } := by
  have still : b.emptied.sort = .model := sort
  rw [model?_of_model still]
  rfl

theorem enum?_emptied (sort : b.sort = .model) : b.emptied.enum? = none :=
  enum?_of_model sort

theorem model?_taking (other : SourceBlock) (sort : b.sort = .enum) :
    (b.taking other).model? = none :=
  model?_of_enum sort

theorem enum?_taking (other : SourceBlock) (sort : b.sort = .enum) :
    (b.taking other).enum? =
      some { name := b.name, values := b.content.map trim ++ other.content.map trim } := by
  have still : (b.taking other).sort = .enum := sort
  rw [enum?_of_enum still, taking, List.map_append]

end

theorem leftOpen_cons (b next : SourceBlock) (below : List SourceBlock) :
    b.leftOpen (next :: below) = b.leftOpen [next] ++ below := by
  simp only [leftOpen]
  cases b.sort <;> cases next.sort <;> rfl

end SourceBlock

/-! ## The scan of a block -/

namespace Scan

open SourceBlock

/-- The scan has found these blocks, and has this model and this enum open. -/
structure Has (s : Scan) (found : List SourceBlock) (m? : Option Model)
    (e? : Option Enumeration) : Prop where
  models : s.models = found.filterMap (·.model?)
  enums : s.enums = found.filterMap (·.enum?)
  openModel : s.openModel = m?
  openEnum : s.openEnum = e?

section Block

variable {s : Scan} {found : List SourceBlock} {m? : Option Model} {e? : Option Enumeration}
  {b : SourceBlock}

theorem has_enum (has : s.Has found m? e?) (sort : b.sort = .enum) :
    ((b.openLines.filterMap Line.statement?).foldl step s).Has found m? b.enum? := by
  have opened : s.step ⟨b.sort.opening b.name, trim b.opener, 0⟩ =
      { s with openEnum := some { name := b.name } } := by
    rw [sort]
    rfl
  rw [filterMap_openLines, List.foldl_cons, opened, foldl_values, enum?_of_enum sort]
  exact ⟨has.models, has.enums, has.openModel, rfl⟩

theorem has_model (has : s.Has found m? none) (sort : b.sort = .model) :
    ((b.openLines.filterMap Line.statement?).foldl step s).Has found b.model? none := by
  have opened : s.step ⟨b.sort.opening b.name, trim b.opener, 0⟩ =
      { s with openModel := some (ModelBlock.model { name := b.name }), openEnum := none } := by
    rw [sort, ← has.openEnum]
    rfl
  rw [filterMap_openLines, List.foldl_cons, opened, foldl_fields, model?_of_model sort]
  exact ⟨has.models, has.enums, rfl, rfl⟩

/-- Inside of an open enum the model gets none of its content. -/
theorem has_model_in_enum {enum : SourceBlock} (has : s.Has found m? enum.enum?)
    (around : enum.sort = .enum) (sort : b.sort = .model) :
    ((b.openLines.filterMap Line.statement?).foldl step s).Has found b.emptied.model?
      (enum.taking b).enum? := by
  have opened : s.step ⟨b.sort.opening b.name, trim b.opener, 0⟩ =
      { s with
        openModel := some { name := b.name }
        openEnum := some { name := enum.name, values := enum.content.map trim } } := by
    rw [sort, ← enum?_of_enum around, ← has.openEnum]
    rfl
  rw [filterMap_openLines, List.foldl_cons, opened,
    foldl_values _ { s with openModel := some { name := b.name } }, model?_emptied sort,
    enum?_taking b around]
  exact ⟨has.models, has.enums, rfl, rfl⟩

theorem has_close (has : s.Has found m? e?) {blocks : List SourceBlock}
    (models : blocks.filterMap (·.model?) = m?.toList)
    (enums : blocks.filterMap (·.enum?) = e?.toList) :
    (s.step closingLine).Has (found ++ blocks) none none where
  models := by
    rw [List.filterMap_append, models, ← has.models, ← has.openModel]
    rfl
  enums := by
    rw [List.filterMap_append, enums, ← has.enums, ← has.openEnum]
    rfl
  openModel := rfl
  openEnum := rfl

theorem has_lines (has : s.Has found none none) :
    ((b.lines.filterMap Line.statement?).foldl step s).Has (found ++ [b]) none none := by
  rw [filterMap_lines, List.foldl_append]
  cases sort : b.sort with
  | model =>
      refine has_close (has_model has sort) ?_ ?_
      · simp [model?_of_model sort]
      · simp [enum?_of_model sort]
  | enum =>
      refine has_close (has_enum has sort) ?_ ?_
      · simp [model?_of_enum sort]
      · simp [enum?_of_enum sort]

/-- The first closing brace behind a block that is left open. -/
theorem has_next (has : s.Has found none none) (next : SourceBlock) :
    (((b.openLines ++ next.lines).filterMap Line.statement?).foldl step s).Has
      (found ++ b.leftOpen [next]) none none := by
  rw [List.filterMap_append, filterMap_lines, List.foldl_append, List.foldl_append, leftOpen]
  cases sort : b.sort with
  | model =>
      have under := has_model has sort
      cases nextSort : next.sort with
      | model =>
          refine has_close (has_model under nextSort) ?_ ?_
          · simp [model?_of_model nextSort]
          · simp [enum?_of_model nextSort]
      | enum =>
          refine has_close (has_enum under nextSort) ?_ ?_
          · simp [model?_of_model sort, model?_of_enum nextSort]
          · simp [enum?_of_model sort, enum?_of_enum nextSort]
  | enum =>
      have under := has_enum has sort
      cases nextSort : next.sort with
      | model =>
          refine has_close (has_model_in_enum under sort nextSort) ?_ ?_
          · simp [model?_taking next sort, model?_emptied nextSort]
          · simp [enum?_taking next sort, enum?_emptied nextSort]
      | enum =>
          refine has_close (has_enum under nextSort) ?_ ?_
          · simp [model?_of_enum nextSort]
          · simp [enum?_of_enum nextSort]

end Block

/-! ## The scan of a text -/

theorem has_blocks (blocks : List SourceBlock) :
    ∀ {s : Scan} {found : List SourceBlock}, s.Has found none none →
      (((blocks.flatMap lines).filterMap Line.statement?).foldl step s).Has (found ++ blocks)
        none none := by
  induction blocks with
  | nil =>
      intro s found has
      simpa using has
  | cons b rest ih =>
      intro s found has
      rw [List.flatMap_cons, List.filterMap_append, List.foldl_append, List.append_cons]
      exact ih (has_lines has)

theorem has_leftOpen {s : Scan} {found : List SourceBlock} (has : s.Has found none none)
    (b : SourceBlock) (after : List SourceBlock) :
    ∃ m? e?, (((b.openLines ++ after.flatMap lines).filterMap Line.statement?).foldl step s).Has
      (found ++ b.leftOpen after) m? e? := by
  cases after with
  | nil =>
      rw [List.flatMap_nil, List.append_nil, leftOpen, List.append_nil]
      cases sort : b.sort with
      | model => exact ⟨_, _, has_model has sort⟩
      | enum => exact ⟨_, _, has_enum has sort⟩
  | cons next below =>
      have closed := has_blocks below (has_next has next (b := b))
      rw [List.flatMap_cons, ← List.append_assoc, List.filterMap_append, List.foldl_append,
        leftOpen_cons, ← List.append_assoc]
      exact ⟨none, none, closed⟩

theorem has_start : Has {} [] none none :=
  ⟨rfl, rfl, rfl, rfl⟩

end Scan

namespace Schema

open SourceBlock

/-- **What a missing brace makes of the blocks**: those above `b` are read as they stand,
and of `b` and those below it what `leftOpen` says. -/
theorem reads_textWithoutBrace (before : List SourceBlock) (b : SourceBlock)
    (after : List SourceBlock) (resolveBackFields : Bool) :
    (ofText (textWithoutBrace before b after) resolveBackFields).Reads
      (before ++ b.leftOpen after) := by
  have above := Scan.has_blocks before Scan.has_start
  obtain ⟨m?, e?, has⟩ := Scan.has_leftOpen above b after
  rw [← List.foldl_append, ← statements_textWithoutBrace, ← Scan.run_linesOf] at has
  exact ⟨has.models, has.enums⟩

/-! ## The other blocks -/

theorem Reads.iff {s : Schema} {blocks : List SourceBlock} (reads : s.Reads blocks)
    (blocks' : List SourceBlock) :
    s.Reads blocks' ↔ blocks.filterMap (·.model?) = blocks'.filterMap (·.model?) ∧
      blocks.filterMap (·.enum?) = blocks'.filterMap (·.enum?) := by
  rw [← reads.models, ← reads.enums]
  exact ⟨fun reads' => ⟨reads'.models, reads'.enums⟩, fun same => ⟨same.1, same.2⟩⟩

/-- An enum that takes the content of the next model is neither lost nor what it was. -/
theorem reads_taking_iff {s : Schema} {before below : List SourceBlock} {b next : SourceBlock}
    (reads : s.Reads (before ++ b.taking next :: next.emptied :: below)) (sort : b.sort = .enum)
    (nextSort : next.sort = .model) :
    s.Reads (before ++ next :: below) ∨ s.Reads (before ++ b :: next :: below) ↔
      next.content = [] := by
  have taken : (before ++ b.taking next :: next.emptied :: below).filterMap (·.enum?) =
      before.filterMap (·.enum?) ++
        { name := b.name, values := b.content.map trim ++ next.content.map trim } ::
          below.filterMap (·.enum?) := by
    simp [enum?_taking next sort, enum?_emptied nextSort]
  constructor
  · rintro (lost | kept)
    · -- One enum more is read than there are without `b`.
      have same := congrArg List.length (taken.symm.trans ((reads.iff _).1 lost).2)
      simp [enum?_of_model nextSort] at same
    · have same := taken.symm.trans ((reads.iff _).1 kept).2
      simpa [enum?_of_enum sort, enum?_of_model nextSort] using same
  · intro empty
    refine .inr ((reads.iff _).2 ⟨?_, ?_⟩)
    · simp [model?_taking next sort, model?_emptied nextSort, model?_of_enum sort,
        model?_of_model nextSort, empty, Model.ofContent]
    · rw [taken]
      simp [enum?_of_enum sort, enum?_of_model nextSort, empty]

/-- **A missing brace leaves the other blocks alone**, with its own block lost or kept,
exactly if it is not that of an enum with content in a model right behind. -/
theorem reads_others_iff (before : List SourceBlock) (b : SourceBlock) (after : List SourceBlock)
    (resolveBackFields : Bool) :
    let s := ofText (textWithoutBrace before b after) resolveBackFields
    s.Reads (before ++ after) ∨ s.Reads (before ++ b :: after) ↔
      ¬ (b.sort = .enum ∧
        ∃ next below, after = next :: below ∧ next.sort = .model ∧ next.content ≠ []) := by
  intro s
  have reads : s.Reads (before ++ b.leftOpen after) :=
    reads_textWithoutBrace before b after resolveBackFields
  cases after with
  | nil =>
      rw [leftOpen, List.append_nil] at reads
      simp [reads]
  | cons next below =>
      rw [leftOpen] at reads
      cases sort : b.sort with
      | model =>
          cases nextSort : next.sort with
          | model =>
              rw [sort, nextSort] at reads
              simp [reads]
          | enum =>
              rw [sort, nextSort] at reads
              simp [reads]
      | enum =>
          cases nextSort : next.sort with
          | model =>
              rw [sort, nextSort] at reads
              rw [reads_taking_iff reads sort nextSort]
              simp [nextSort]
          | enum =>
              rw [sort, nextSort] at reads
              simp [reads, nextSort]

/-- The field of `A` becomes a value of `E`. -/
theorem unclosed_enum_takes_field :
    ∃ e m : SourceBlock,
      let text := "enum E \x7b\n  X\nmodel A \x7b\n  id Int\n\x7d"
      textWithoutBrace [] e [m] = text ∧
        ¬ ((ofText text false).Reads [m] ∨ (ofText text false).Reads [e, m]) := by
  let e : SourceBlock :=
    { sort := .enum, name := "E", opener := "enum E \x7b", content := ["  X"]
      opens := by decide +kernel
      counts := by decide +kernel
      oneLine := by decide }
  let m : SourceBlock :=
    { sort := .model, name := "A", opener := "model A \x7b", content := ["  id Int"]
      opens := by decide +kernel
      counts := by decide +kernel
      oneLine := by decide }
  refine ⟨e, m, ?_⟩
  intro text
  have models : (ofText text false).models = [{ name := "A" }] := by decide +kernel
  refine ⟨by decide +kernel, ?_⟩
  rintro (lost | kept)
  · exact absurd (models.symm.trans lost.models) (by decide +kernel)
  · exact absurd (models.symm.trans kept.models) (by decide +kernel)

end Schema

end SchemaDiagram
