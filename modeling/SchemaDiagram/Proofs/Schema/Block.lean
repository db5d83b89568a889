/-
# SchemaDiagram.Proofs.Schema.Block -- the model blocks of a text

The scan keeps closed models and relations in two lists and throws open blocks
away.  Here a text has all the model blocks that it opens, in order, each with
the lines that count as its content and with the answer whether a closing brace
ends it (`modelBlocks`).

The two readings agree: the models of a scan are the closed blocks
(`models_run`), and its relations are those of *all* blocks (`relations_run`).
Both follow from what one line does to the block under way (`foldl_step`).
-/
import SchemaDiagram.Schema.Scan

namespace SchemaDiagram

set_option autoImplicit false

structure ModelBlock where
  name : String
  /-- The lines inside the block that are content of no enum. -/
  lines : List String := []
  /-- Whether a closing brace ends the block. -/
  closed : Bool := false
deriving DecidableEq, Repr

namespace ModelBlock

def model (b : ModelBlock) : Model where
  name := b.name
  fields := b.lines.filterMap Field.ofLine?

/-- The relation that a line inside a block of that name declares. -/
def relationAt? (name line : String) : Option Relation :=
  (Field.ofLine? line).bind fun f => Scan.relationOf? f line name

def relations (b : ModelBlock) : List Relation :=
  b.lines.filterMap (relationAt? b.name)

def addLine (b : ModelBlock) (line : String) : ModelBlock :=
  { b with lines := b.lines ++ [line] }

def close (b : ModelBlock) : ModelBlock :=
  { b with closed := true }

end ModelBlock

/-- The model blocks from a line on.  `current` is the block under way; content
goes to it unless an enum is open. -/
def modelBlocksFrom (inEnum : Bool) (current : Option ModelBlock) : List Line → List ModelBlock
  | [] => current.toList
  | line :: rest =>
      match line.kind with
      | .enumOpen _ => modelBlocksFrom true current rest
      | .modelOpen name => current.toList ++ modelBlocksFrom inEnum (some { name }) rest
      | .blockClose => (current.map (·.close)).toList ++ modelBlocksFrom false none rest
      | .content =>
          if inEnum then modelBlocksFrom true current rest
          else modelBlocksFrom false (current.map (·.addLine line.text)) rest

/-- The model blocks of a list of lines, in the order in which they open. -/
def modelBlocks (lines : List Line) : List ModelBlock :=
  modelBlocksFrom false none lines

namespace Scan

open ModelBlock

/-- The scan has the block under way open, and has added its relations last. -/
structure Holds (s : Scan) (current : Option ModelBlock) (earlier : List Relation) : Prop where
  openModel : s.openModel = current.map (·.model)
  relations : s.relations = earlier ++ current.toList.flatMap (·.relations)
  unclosed : ∀ b ∈ current, b.closed = false

theorem holds_addField {s : Scan} {b : ModelBlock} {earlier : List Relation}
    (held : s.Holds (some b) earlier) (line : String) :
    (s.addField b.model line).Holds (some (b.addLine line)) earlier := by
  obtain ⟨opened, related, unclosed⟩ := held
  have still : ∀ c ∈ some (b.addLine line), c.closed = false := by
    rintro c ⟨⟩
    exact unclosed b rfl
  simp only [Option.map_some, Option.toList_some, List.flatMap_cons, List.flatMap_nil,
    List.append_nil] at opened related
  cases declared : Field.ofLine? line with
  | none =>
      refine ⟨?_, ?_, still⟩ <;>
        simp [addField, declared, opened, related, model, addLine, ModelBlock.relations,
          relationAt?]
  | some f =>
      refine ⟨?_, ?_, still⟩
      · simp [addField, declared, model, addLine]
      · cases added : relationOf? f line b.name <;>
          simp [addField, declared, related, model, addLine, ModelBlock.relations, relationAt?,
            added]

/-- What a run adds to a scan: the models of the blocks that close, and the
relations of all blocks. -/
theorem foldl_step (lines : List Line) :
    ∀ (s : Scan) (current : Option ModelBlock) (earlier : List Relation),
      s.Holds current earlier →
      (lines.foldl step s).models = s.models ++
          ((modelBlocksFrom s.openEnum.isSome current lines).filter (·.closed)).map (·.model) ∧
        (lines.foldl step s).relations =
          earlier ++ (modelBlocksFrom s.openEnum.isSome current lines).flatMap (·.relations) := by
  induction lines with
  | nil =>
      intro s current earlier held
      have unclosed := held.unclosed
      refine ⟨?_, held.relations⟩
      cases current with
      | none => simp [modelBlocksFrom]
      | some b => simp [modelBlocksFrom, unclosed b rfl]
  | cons line rest ih =>
      intro s current earlier held
      obtain ⟨opened, related, unclosed⟩ := held
      rw [List.foldl_cons]
      cases kind : line.kind with
      | enumOpen name =>
          simpa [modelBlocksFrom, step, kind] using
            ih (s.step line) current earlier
              ⟨by simpa [step, kind] using opened, by simpa [step, kind] using related, unclosed⟩
      | modelOpen name =>
          -- The block under way is left open, and its relations count as earlier ones.
          have := ih (s.step line) (some { name }) (earlier ++ current.toList.flatMap (·.relations))
            ⟨by simp [step, kind, model],
              by simpa [step, kind, ModelBlock.relations] using related, by rintro b ⟨⟩; rfl⟩
          cases current with
          | none => simpa [modelBlocksFrom, step, kind] using this
          | some b => simpa [modelBlocksFrom, step, kind, unclosed b rfl] using this
      | blockClose =>
          have := ih (s.step line) none (earlier ++ current.toList.flatMap (·.relations))
            ⟨by simp [step, kind, Scan.close],
              by simpa [step, kind, Scan.close] using related, by simp⟩
          cases current with
          | none => simpa [modelBlocksFrom, step, kind, Scan.close, opened] using this
          | some b =>
              simpa [modelBlocksFrom, step, kind, Scan.close, opened, ModelBlock.close,
                ModelBlock.relations, model] using this
      | content =>
          cases inEnum : s.openEnum with
          | some e =>
              simpa [modelBlocksFrom, step, kind, addContent, inEnum] using
                ih (s.step line) current earlier
                  ⟨by simpa [step, kind, addContent, inEnum] using opened,
                    by simpa [step, kind, addContent, inEnum] using related, unclosed⟩
          | none =>
              cases current with
              | none =>
                  have idle : s.step line = s := by
                    simp [step, kind, addContent, inEnum, opened]
                  simpa [modelBlocksFrom, kind, idle, inEnum] using
                    ih s none earlier ⟨opened, related, unclosed⟩
              | some b =>
                  have added : s.step line = s.addField b.model line.text := by
                    simp [step, kind, addContent, inEnum, opened]
                  have kept : (s.addField b.model line.text).models = s.models ∧
                      (s.addField b.model line.text).openEnum = none := by
                    unfold addField
                    split <;> exact ⟨rfl, inEnum⟩
                  have := ih _ _ _ (holds_addField ⟨opened, related, unclosed⟩ line.text)
                  simpa [modelBlocksFrom, kind, added, inEnum, kept] using this

theorem holds_start : Holds {} none [] :=
  ⟨rfl, rfl, by simp⟩

/-- The models of a scan are the closed blocks, in order. -/
theorem models_run (lines : List Line) :
    (run lines).models = ((modelBlocks lines).filter (·.closed)).map (·.model) := by
  simpa [run, modelBlocks] using (foldl_step lines {} none [] holds_start).1

/-- The relations of a scan are those of all blocks, closed or not. -/
theorem relations_run (lines : List Line) :
    (run lines).relations = (modelBlocks lines).flatMap (·.relations) := by
  simpa [run, modelBlocks] using (foldl_step lines {} none [] holds_start).2

end Scan

end SchemaDiagram
