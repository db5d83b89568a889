/-
# SchemaDiagram.Proofs.Schema.Layout -- what the layout of a text leaves alone

A line is trimmed before it is read, and blank lines, comments and the opening lines of
generators and data sources are read as nothing.  So a text can be laid out anew without
a change to its schema (`ofText_relayout`): lines may end in carriage returns, be
indented or followed by blanks, and lines that are skipped may come and go, also inside
of blocks.

Each of these steps leaves the statements of the text as they are
(`statements_relayout`), and a scan looks at nothing else.
-/
import Mathlib.Data.List.Forall2
import Mathlib.Logic.Relation
import SchemaDiagram.Proofs.Schema.Statement

namespace SchemaDiagram

set_option autoImplicit false

open Text

/-- The text with its lines ending in a carriage return and a line feed. -/
def withCarriageReturns (text : String) : String :=
  String.ofList (text.toList.flatMap fun c => if c = '\n' then ['\r', '\n'] else [c])

/-- A line that is read as nothing. -/
def Line.IsSkipped (raw : String) : Prop :=
  trim raw = "" ∨ ∃ start ∈ ["//", "generator", "datasource"], startsWith start (trim raw) = true

instance : DecidablePred Line.IsSkipped :=
  fun raw => inferInstanceAs (Decidable (trim raw = "" ∨
    ∃ start ∈ ["//", "generator", "datasource"], startsWith start (trim raw) = true))

/-- One change to the layout of the text `s`, said of its lines. -/
inductive Relayout (s : String) : String → Prop
  | carriageReturns : Relayout s (withCarriageReturns s)
  | pad {t line left right : String} {above below : List String}
      (leftBlank : allBlank left = true) (rightBlank : allBlank right = true)
      (before : pieces '\n' s = above ++ line :: below)
      (after : pieces '\n' t = above ++ (left ++ line ++ right) :: below) : Relayout s t
  | insert {t line : String} {above below : List String} (skipped : Line.IsSkipped line)
      (before : pieces '\n' s = above ++ below)
      (after : pieces '\n' t = above ++ line :: below) : Relayout s t
  | delete {t line : String} {above below : List String} (skipped : Line.IsSkipped line)
      (before : pieces '\n' s = above ++ line :: below)
      (after : pieces '\n' t = above ++ below) : Relayout s t

/-! ## Single lines -/

namespace Line

theorem statement?_congr {raw raw' : String} (same : trim raw = trim raw') :
    statement? raw = statement? raw' :=
  Option.ext fun line => by rw [statement?_eq_some_iff, statement?_eq_some_iff, same]

theorem statement?_of_isSkipped {raw : String} (skipped : IsSkipped raw) :
    statement? raw = none := by
  have counted : (trim raw = "" || skippedStarts.any (startsWith · (trim raw))) = true := by
    rcases skipped with empty | ⟨start, inside, starts⟩
    · simp [empty]
    · rw [Bool.or_eq_true, List.any_eq_true]
      exact .inr ⟨start, inside, starts⟩
  rw [Option.eq_none_iff_forall_ne_some]
  intro line made
  have sorted := (statement?_eq_some_iff.1 made).1
  rw [kind?, if_pos counted] at sorted
  cases sorted

end Line

/-! ## Line ends -/

/-- The one line is the other one with blanks behind it. -/
def EndsInBlanks (longer line : List Char) : Prop :=
  ∃ back, (∀ c ∈ back, isBlank c = true) ∧ longer = line ++ back

theorem endsInBlanks_pieces (cs : List Char) :
    List.Forall₂ EndsInBlanks
      (piecesOf '\n' (cs.flatMap fun c => if c = '\n' then ['\r', '\n'] else [c]))
      (piecesOf '\n' cs) := by
  induction cs with
  | nil => exact .cons ⟨[], by simp, rfl⟩ .nil
  | cons c rest ih =>
      rw [List.flatMap_cons]
      by_cases lineEnd : c = '\n'
      · have blank : ∀ d ∈ ['\r'], isBlank d = true := by
          rw [List.forall_mem_singleton]
          decide
        rw [if_pos lineEnd, lineEnd]
        simp only [List.cons_append, List.nil_append, piecesOf]
        exact .cons ⟨['\r'], blank, rfl⟩ ih
      · rw [if_neg lineEnd, List.singleton_append]
        obtain ⟨head, below, cut, longer⟩ := piecesOf_cons_of_ne lineEnd rest
        obtain ⟨head', below', cut', longer'⟩ := piecesOf_cons_of_ne lineEnd
          (rest.flatMap fun c => if c = '\n' then ['\r', '\n'] else [c])
        rw [cut, cut'] at ih
        obtain ⟨⟨back, blank, rfl⟩, same⟩ := List.forall₂_cons.1 ih
        rw [longer, longer']
        exact .cons ⟨back, blank, rfl⟩ same

theorem filterMap_statement?_of_endsInBlanks {longer lines : List (List Char)}
    (ends : List.Forall₂ EndsInBlanks longer lines) :
    (longer.map String.ofList).filterMap Line.statement? =
      (lines.map String.ofList).filterMap Line.statement? := by
  induction ends with
  | nil => rfl
  | @cons _ line _ _ ending _ ih =>
      obtain ⟨back, blank, rfl⟩ := ending
      have same : trim (String.ofList (line ++ back)) = trim (String.ofList line) := by
        rw [← String.toList_inj, toList_trim, toList_trim, String.toList_ofList,
          String.toList_ofList, trimChars_append_right blank]
      rw [List.map_cons, List.map_cons, List.filterMap_cons, List.filterMap_cons, ih,
        Line.statement?_congr same]

theorem statements_withCarriageReturns (text : String) :
    statements (withCarriageReturns text) = statements text := by
  have same := filterMap_statement?_of_endsInBlanks (endsInBlanks_pieces text.toList)
  rw [statements, pieces, withCarriageReturns, String.toList_ofList, same]
  rfl

/-! ## Layouts -/

theorem statements_relayout {s t : String} (laid : Relayout s t) : statements t = statements s := by
  cases laid with
  | carriageReturns => exact statements_withCarriageReturns s
  | @pad _ line _ _ _ _ leftBlank rightBlank before after =>
      have same := Line.statement?_congr (trim_padded leftBlank rightBlank line)
      rw [statements, after, statements, before, List.filterMap_append, List.filterMap_append,
        List.filterMap_cons, List.filterMap_cons, same]
  | insert skipped before after =>
      rw [statements, after, statements, before, List.filterMap_append, List.filterMap_append,
        List.filterMap_cons_none (Line.statement?_of_isSkipped skipped)]
  | delete skipped before after =>
      rw [statements, after, statements, before, List.filterMap_append, List.filterMap_append,
        List.filterMap_cons_none (Line.statement?_of_isSkipped skipped)]

theorem Schema.ofText_congr {s t : String} (same : statements t = statements s)
    (resolveBackFields : Bool) : ofText t resolveBackFields = ofText s resolveBackFields := by
  rw [ofText, ofText, Scan.run_linesOf, Scan.run_linesOf, same]

/-- **The layout of a text makes no difference to its schema.** -/
theorem Schema.ofText_relayout {s t : String} (laid : Relation.ReflTransGen Relayout s t)
    (resolveBackFields : Bool) : ofText t resolveBackFields = ofText s resolveBackFields := by
  induction laid with
  | refl => rfl
  | tail _ step ih => rw [ofText_congr (statements_relayout step), ih]

/-- The lines get carriage returns, a comment comes into the block, the field is moved
to the right, and the blank line above goes. -/
theorem Schema.ofText_relayout_steps :
    let s := "\nmodel A \x7b\n  b B\n\x7d"
    let t := "model A \x7b\r\n\t  b B\r\n // \uFEFF\n\x7d"
    Relation.ReflTransGen Relayout s t ∧ ofText t true = ofText s true := by
  intro s t
  have returned : withCarriageReturns s = "\r\nmodel A \x7b\r\n  b B\r\n\x7d" := by
    decide +kernel
  have lines : pieces '\n' "\r\nmodel A \x7b\r\n  b B\r\n\x7d" =
      ["\r", "model A \x7b\r", "  b B\r"] ++ ["\x7d"] := by
    decide +kernel
  have commented : pieces '\n' "\r\nmodel A \x7b\r\n  b B\r\n // \uFEFF\n\x7d" =
      ["\r", "model A \x7b\r", "  b B\r"] ++ " // \uFEFF" :: ["\x7d"] := by
    decide +kernel
  have field : pieces '\n' "\r\nmodel A \x7b\r\n  b B\r\n // \uFEFF\n\x7d" =
      ["\r", "model A \x7b\r"] ++ "  b B\r" :: [" // \uFEFF", "\x7d"] := commented
  have moved : pieces '\n' "\r\nmodel A \x7b\r\n\t  b B\r\n // \uFEFF\n\x7d" =
      ["\r", "model A \x7b\r"] ++ ("\t" ++ "  b B\r" ++ "") :: [" // \uFEFF", "\x7d"] := by
    decide +kernel
  have first : pieces '\n' "\r\nmodel A \x7b\r\n\t  b B\r\n // \uFEFF\n\x7d" =
      [] ++ "\r" :: ["model A \x7b\r", "\t" ++ "  b B\r" ++ "", " // \uFEFF", "\x7d"] := moved
  have shorter : pieces '\n' t =
      [] ++ ["model A \x7b\r", "\t" ++ "  b B\r" ++ "", " // \uFEFF", "\x7d"] := by
    decide +kernel
  have tab : allBlank "\t" = true := by decide
  have nothing : allBlank "" = true := by decide
  have comment : Line.IsSkipped " // \uFEFF" := by decide +kernel
  have blank : Line.IsSkipped "\r" := by decide +kernel
  have laid : Relation.ReflTransGen Relayout s t :=
    .tail (.tail (.tail (.single (returned ▸ .carriageReturns)) (.insert comment lines commented))
      (.pad tab nothing field moved)) (.delete blank first shorter)
  exact ⟨laid, ofText_relayout laid true⟩

end SchemaDiagram
