/-
# SchemaDiagram.Proofs.Text.Halves -- what two readings of a text tell

A text in quotes consists of characters and of halves of pairs.  Which of them it has
does not depend on the character that a reader puts in the place of halves, and neither
does whether it can be read and where it ends (`exists_units_readQuoted`,
`exists_units_quotedText`).  So its two readings are the same exactly if it has no half,
and those of a text that is put together exactly if no part of it has one
(`whole?_ofUnits_eq_none_iff`, `map₂_append_ofUnits`).
-/
import SchemaDiagram.Json.Reader
import SchemaDiagram.Proofs.Data.Checked
import SchemaDiagram.Yaml.Text

namespace SchemaDiagram

set_option autoImplicit false

/-! ## Characters and halves -/

/-- Characters and halves of pairs, which are none, with `half` in the place of these. -/
def Text.fill (half : Char) (units : List (Option Char)) : List Char :=
  units.map (·.getD half)

theorem Text.fill_map_some (half : Char) (cs : List Char) : fill half (cs.map some) = cs := by
  rw [fill, List.map_map]
  exact List.map_id cs

theorem Text.fill_append (half : Char) (first second : List (Option Char)) :
    fill half (first ++ second) = fill half first ++ fill half second :=
  List.map_append

theorem Text.fill_eq_fill_iff {first second : Char} (different : first ≠ second)
    {units : List (Option Char)} : fill first units = fill second units ↔ none ∉ units := by
  induction units with
  | nil => simp [fill]
  | cons unit rest ih =>
      simp only [fill, List.map_cons, List.cons.injEq, List.mem_cons, not_or] at ih ⊢
      rw [ih]
      cases unit with
      | none => simp [different]
      | some c => simp

namespace Twin

def ofUnits (units : List (Option Char)) : Twin String :=
  { first := String.ofList (Text.fill Text.standIn units)
    second := String.ofList (Text.fill Text.otherStandIn units) }

/-- A text that is put together has the units of its parts. -/
theorem map₂_append_ofUnits (first second : List (Option Char)) :
    map₂ (· ++ ·) (ofUnits first) (ofUnits second) = ofUnits (first ++ second) := by
  simp [map₂, ofUnits, Text.fill_append]

/-- A text has no bytes exactly if it has a half of a pair. -/
theorem whole?_ofUnits_eq_none_iff {units : List (Option Char)} :
    (ofUnits units).whole? = none ↔ none ∈ units := by
  have different : Text.standIn ≠ Text.otherStandIn := by decide
  have same : (ofUnits units).first = (ofUnits units).second ↔ none ∉ units := by
    rw [ofUnits, String.ofList_inj]
    exact Text.fill_eq_fill_iff different
  unfold whole?
  split
  · rename_i alike
    simpa using same.1 alike
  · rename_i other
    simpa [same] using other

end Twin

/-! ## Quotes in JSON -/

namespace Json

theorem exists_unit_ite (pair : Bool) (c : Char) (after rest : List Char) :
    ∃ read? : Option (Option Char × List Char), ∀ half,
      (if pair = true then some (c, after) else some (half, rest)) =
        read?.map fun read => (read.1.getD half, read.2) := by
  cases pair with
  | true => exact ⟨some (some c, after), fun half => rfl⟩
  | false => exact ⟨some (none, rest), fun half => rfl⟩

theorem exists_unit_readNumbered (cs : List Char) :
    ∃ read? : Option (Option Char × List Char), ∀ half,
      readNumbered half cs = read?.map fun read => (read.1.getD half, read.2) := by
  unfold readNumbered
  cases readUnit cs with
  | none => exact ⟨none, fun half => rfl⟩
  | some read =>
      obtain ⟨unit, rest⟩ := read
      simp only [Option.bind_eq_bind, Option.bind_some]
      split
      · split
        · rename_i more
          cases readUnit more with
          | none => exact ⟨none, fun half => rfl⟩
          | some read => exact exists_unit_ite _ _ _ _
        · exact ⟨some (none, rest), fun half => rfl⟩
      · split
        · exact ⟨some (none, rest), fun half => rfl⟩
        · exact ⟨some (some (Char.ofNat unit), rest), fun half => rfl⟩

theorem exists_unit_readEscape (cs : List Char) :
    ∃ read? : Option (Option Char × List Char), ∀ half,
      readEscape half cs = read?.map fun read => (read.1.getD half, read.2) := by
  simp only [readEscape]
  split
  case h_9 => exact exists_unit_readNumbered _
  case h_10 => exact ⟨none, fun half => rfl⟩
  all_goals exact ⟨some (some _, _), fun half => rfl⟩

/-- What a quoted text is read to, the units in `before` having been read, last first. -/
theorem exists_units_readQuoted (fuel : Nat) (before : List (Option Char)) (cs : List Char) :
    ∃ read? : Option (List (Option Char) × List Char), ∀ half,
      readQuoted half fuel (Text.fill half before) cs =
        read?.map fun read => (String.ofList (Text.fill half read.1), read.2) := by
  induction fuel generalizing before cs with
  | zero => exact ⟨none, fun half => rfl⟩
  | succ fuel ih =>
      simp only [readQuoted]
      split
      · exact ⟨none, fun half => rfl⟩
      · rename_i rest
        exact ⟨some (before.reverse, rest), fun half => by simp [Text.fill]⟩
      · rename_i rest
        obtain ⟨read?, escape⟩ := exists_unit_readEscape rest
        cases read? with
        | none => exact ⟨none, fun half => by rw [escape]; rfl⟩
        | some read =>
            obtain ⟨read?, more⟩ := ih (read.1 :: before) read.2
            refine ⟨read?, fun half => ?_⟩
            rw [escape]
            exact more half
      · rename_i c rest _ _
        split
        · exact ⟨none, fun half => rfl⟩
        · exact ih (some c :: before) rest

end Json

/-! ## Quotes in YAML -/

namespace Yaml

theorem exists_units_of_characters (read : Except ReadFault (List Char × Cursor)) :
    ∃ read' : Except ReadFault (List (Option Char) × Cursor), ∀ half,
      read = read'.map fun read => (Text.fill half read.1, read.2) := by
  cases read with
  | error fault => exact ⟨.error fault, fun half => rfl⟩
  | ok read =>
      refine ⟨.ok (read.1.map some, read.2), fun half => ?_⟩
      rw [Except.map, Text.fill_map_some]

theorem exists_units_quotedEscape (c : Cursor) :
    ∃ read : Except ReadFault (List (Option Char) × Cursor), ∀ half,
      quotedEscape half c = read.map fun read => (Text.fill half read.1, read.2) := by
  simp only [quotedEscape]
  split
  · exact exists_units_of_characters _
  · split
    · exact exists_units_of_characters _
    · split
      · exact exists_units_of_characters _
      · split
        · exact exists_units_of_characters _
        · split
          · exact ⟨.ok ([none], _), fun half => rfl⟩
          · exact exists_units_of_characters _
    · split
      · exact exists_units_of_characters _
      · exact exists_units_of_characters _

theorem exists_units_quotedText (quote : Char) (fuel : Nat) (c : Cursor) :
    ∃ read : Except ReadFault (List (Option Char) × Cursor), ∀ half,
      quotedText half quote fuel c = read.map fun read => (Text.fill half read.1, read.2) := by
  induction fuel generalizing c with
  | zero => exact exists_units_of_characters _
  | succ fuel ih =>
      -- What has been read of a text goes before what the rest of it is read to.
      have onward (first : Except ReadFault (List (Option Char) × Cursor)) :
          ∃ read : Except ReadFault (List (Option Char) × Cursor), ∀ half,
            ((first.map fun read => (Text.fill half read.1, read.2)) >>= fun run =>
              (quotedText half quote fuel run.2).map fun more => (run.1 ++ more.1, more.2)) =
            read.map fun read => (Text.fill half read.1, read.2) := by
        cases first with
        | error fault => exact ⟨.error fault, fun half => rfl⟩
        | ok first =>
            obtain ⟨read, more⟩ := ih first.2
            refine ⟨read.map fun read => (first.1 ++ read.1, read.2), fun half => ?_⟩
            simp only [Except.map, bind, Except.bind, more]
            cases read with
            | error fault => rfl
            | ok read => simp only [Text.fill_append]
      simp only [quotedText]
      split
      · exact exists_units_of_characters _
      · split
        · split
          · exact onward (.ok ([some _], _))
          · exact exists_units_of_characters _
        · split
          · obtain ⟨first, escape⟩ := exists_units_quotedEscape c.forward
            obtain ⟨read, more⟩ := onward first
            exact ⟨read, fun half => by rw [escape]; exact more half⟩
          · split
            · obtain ⟨first, gap⟩ := exists_units_of_characters (orMalformed (quotedGap c))
              obtain ⟨read, more⟩ := onward first
              exact ⟨read, fun half => by rw [gap half]; exact more half⟩
            · exact onward (.ok ([some _], _))

end Yaml

end SchemaDiagram
