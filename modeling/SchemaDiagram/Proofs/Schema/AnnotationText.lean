/-
# SchemaDiagram.Proofs.Schema.AnnotationText -- annotations and blanks

The arguments of a line are those of the first annotation from which any can be
read (`RelationArgs.argumentsIn`).  Runs of blanks do not count for them, except
inside the columns: if these hold single spaces only, the words of a line give the
same arguments as the line (`ofLine_join_words`).
-/
import SchemaDiagram.Schema.RelationArgs
import SchemaDiagram.Proofs.Text.Squeeze

namespace SchemaDiagram.RelationArgs

set_option autoImplicit false

open Text

theorem blank_ne {c d : Char} (free : isBlank d = false) (blank : isBlank c = true) :
    (c != d) = true := by
  rw [bne_iff_ne]
  rintro rfl
  rw [free] at blank
  cases blank

/-! ## Blanks -/

/-- The code points of all blanks. -/
def blankCodes : List Nat :=
  [9, 10, 11, 12, 13, 28, 29, 30, 31, 32, 0x85, 0xA0, 0x1680, 0x2000, 0x2001, 0x2002, 0x2003,
    0x2004, 0x2005, 0x2006, 0x2007, 0x2008, 0x2009, 0x200A, 0x2028, 0x2029, 0x202F, 0x205F, 0x3000]

theorem mem_blankCodes {c : Char} (blank : isBlank c = true) : c.toNat ∈ blankCodes := by
  simp only [isBlank, Bool.or_eq_true, Bool.and_eq_true, decide_eq_true_eq, beq_iff_eq] at blank
  simp only [blankCodes, List.mem_cons, List.not_mem_nil, or_false]
  omega

theorem isWordChar_of_blank (c : Char) (blank : isBlank c = true) : isWordChar c = false := by
  have noneInWords : ∀ n ∈ blankCodes, isWordChar (Char.ofNat n) = false := by decide +kernel
  have code := noneInWords c.toNat (mem_blankCodes blank)
  rwa [Char.ofNat_toNat] at code

theorem upTo_squeeze {stop : Char} (free : isBlank stop = false) (cs : List Char) :
    upTo stop (squeeze cs) = (upTo stop cs).map squeeze := by
  have blanks : ∀ c, isBlank c = true → (c != stop) = true := fun _ blank => blank_ne free blank
  have empty (ds : List Char) : (squeeze ds).isEmpty = ds.isEmpty := by
    rw [Bool.eq_iff_iff, List.isEmpty_iff, List.isEmpty_iff, squeeze_eq_nil_iff]
  simp only [upTo]
  rw [takeWhile_squeeze blanks, dropWhile_squeeze blanks, empty, empty]
  split <;> rfl

theorem bracketed_squeeze (cs : List Char) :
    bracketed (squeeze cs) = (bracketed cs).map squeeze := by
  rw [bracketed, bracketed, dropWhile_squeeze fun _ blank => blank]
  cases rest : cs.dropWhile isBlank with
  | nil => rfl
  | cons c ds =>
      have free : isBlank c = false := head_not_of_dropWhile isBlank cs c (by rw [rest]; rfl)
      rw [squeeze_cons free]
      by_cases bracket : c = '['
      · subst bracket
        exact upTo_squeeze (by decide) ds
      · split
        · rename_i opened
          exact absurd (List.cons_eq_cons.1 opened).1 bracket
        · split
          · rename_i opened
            exact absurd (List.cons_eq_cons.1 opened).1 bracket
          · rfl

theorem nextWord_squeeze (cs : List Char) : nextWord (squeeze cs) = nextWord cs := by
  simp only [nextWord]
  rw [dropWhile_squeeze fun _ blank => blank, takeWhile_squeeze_of_not_blank isWordChar_of_blank]

/-! ## Columns -/

/-- What a column keeps of its text. -/
def notQuote (c : Char) : Bool :=
  c != '"' && c != '\''

theorem not_blank_of_quote {c : Char} (quote : notQuote c = false) : isBlank c = false := by
  rw [notQuote, Bool.and_eq_false_iff, bne_eq_false_iff_eq, bne_eq_false_iff_eq] at quote
  rcases quote with rfl | rfl <;> decide

theorem squeezed_of_filter {cs : List Char} (single : Squeezed (cs.filter notQuote)) :
    Squeezed cs := by
  induction cs with
  | nil => trivial
  | cons c cs ih =>
      cases kept : notQuote c with
      | false =>
          rw [List.filter_cons_of_neg (by simp [kept])] at single
          have free : isBlank c = false := not_blank_of_quote kept
          exact ⟨fun blank => by simp [free] at blank, ih single⟩
      | true =>
          rw [List.filter_cons_of_pos kept] at single
          obtain ⟨here, there⟩ := single
          refine ⟨fun blank => ⟨(here blank).1, ?_⟩, ih there⟩
          cases cs with
          | nil => rfl
          | cons d cs =>
              cases kept' : notQuote d with
              | false => exact not_blank_of_quote kept'
              | true =>
                  have next := (here blank).2
                  rwa [List.filter_cons_of_pos kept'] at next

/-- Columns do not depend on runs of blanks if none is left in them. -/
theorem columns_squeeze {list : List Char}
    (single : ∀ column ∈ columns list, squeeze column.toList = column.toList) :
    columns (squeeze list) = columns list := by
  rw [columns, piecesOf_squeeze (by decide), List.map_map, columns]
  refine List.map_congr_left fun item member => ?_
  have alone := single _ (List.mem_map_of_mem member)
  rw [String.toList_ofList] at alone
  have kept := squeeze_of_squeezed (squeezed_of_filter (squeezed_of_squeeze alone))
  rw [Function.comp_apply, strip_squeeze, kept]

/-! ## Arguments -/

/-- The text of the first annotation from which arguments can be read. -/
def argumentsIn (cs : List Char) : Option (List Char) :=
  firstAfter "@relation(".toList (upTo ')') cs

theorem ofLine_eq (line : String) :
    ofLine line = ((argumentsIn line.toList).map ofArguments).getD {} := by
  rw [ofLine, argumentsIn]
  split <;> rename_i found <;> rw [found] <;> rfl

theorem argumentsIn_squeeze (cs : List Char) :
    argumentsIn (squeeze cs) = (argumentsIn cs).map squeeze := by
  have read : (fun rest => upTo ')' (squeeze rest)) = fun rest => (upTo ')' rest).map squeeze :=
    funext (upTo_squeeze (by decide))
  rw [argumentsIn, firstAfter_squeeze (by decide), read, firstAfter_map, argumentsIn]

theorem columnsAfter_squeeze {key : String} {cs : List Char} (word : IsWord key)
    (single : ∀ column ∈ ((firstAfter key.toList bracketed cs).map columns).getD [],
      squeeze column.toList = column.toList) :
    ((firstAfter key.toList bracketed (squeeze cs)).map columns).getD [] =
      ((firstAfter key.toList bracketed cs).map columns).getD [] := by
  rw [firstAfter_squeeze word, funext bracketed_squeeze, firstAfter_map]
  cases found : firstAfter key.toList bracketed cs with
  | none => rfl
  | some list =>
      rw [found] at single
      exact columns_squeeze single

theorem ofArguments_squeeze {cs : List Char}
    (fields : ∀ column ∈ (ofArguments cs).fields, squeeze column.toList = column.toList)
    (references : ∀ column ∈ (ofArguments cs).references, squeeze column.toList = column.toList) :
    ofArguments (squeeze cs) = ofArguments cs := by
  rw [ofArguments] at fields references
  rw [ofArguments, ofArguments, columnsAfter_squeeze (by decide) fields,
    columnsAfter_squeeze (by decide) references,
    firstAfter_squeeze (by decide), firstAfter_squeeze (by decide),
    funext nextWord_squeeze]

/-- **The words of a line give its arguments**, if its columns hold single spaces
only. -/
theorem ofLine_join_words {line : String} (bare : Bare isBlank line.toList)
    (fields : ∀ column ∈ (ofLine line).fields, squeeze column.toList = column.toList)
    (references : ∀ column ∈ (ofLine line).references, squeeze column.toList = column.toList) :
    ofLine (join " " (words line)) = ofLine line := by
  rw [ofLine_eq] at fields references
  rw [ofLine_eq, ofLine_eq, ← squeeze_eq_join bare, argumentsIn_squeeze]
  cases found : argumentsIn line.toList with
  | none => rfl
  | some arguments =>
      rw [found] at fields references
      exact ofArguments_squeeze fields references

end SchemaDiagram.RelationArgs
