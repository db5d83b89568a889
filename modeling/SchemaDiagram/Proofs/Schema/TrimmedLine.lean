/-
# SchemaDiagram.Proofs.Schema.TrimmedLine -- when trimming a line reaches an end

A line is trimmed of blanks, then of byte-order marks, then of blanks again.  At either
end this cuts at most one run of marks with the blanks around it (`Cuttable`).  So the
trimmed line has neither blanks nor marks at its ends exactly if such runs are all that
stands around its core (`Trimmable`, `trimChars_bare_iff`).

Blanks between two marks are more than that: the inner mark is left, a second trimming
cuts it, and a line that was content opens a block when it is read again
(`mark_between_blanks_stays`).  So trimming is complete where it is idempotent, and there
what is read from a line is read again from its trimmed text (`trim_settles_iff`).
-/
import SchemaDiagram.Proofs.Schema.Statement

namespace SchemaDiagram

set_option autoImplicit false

namespace Text

variable {p : Char → Bool} {cs front core back run : List Char}

theorem isBlank_of_isMark {c : Char} (mark : isMark c = true) : isBlank c = false := by
  rw [isMark, beq_iff_eq] at mark
  rw [mark]
  decide

theorem isMark_of_isBlank {c : Char} (blank : isBlank c = true) : isMark c = false := by
  cases mark : isMark c with
  | false => rfl
  | true =>
      rw [isBlank_of_isMark mark] at blank
      cases blank

theorem trimChars_eq (cs : List Char) :
    trimChars cs = strip isBlank (strip isMark (strip isBlank cs)) := rfl

/-! ## What is cut from an end -/

/-- Marks with blanks on either side of them. -/
def Cuttable (run : List Char) : Prop :=
  ∃ before marks behind, run = before ++ marks ++ behind ∧
    (∀ c ∈ before, isBlank c = true) ∧ (∀ c ∈ marks, isMark c = true) ∧
    ∀ c ∈ behind, isBlank c = true

/-- A text with neither blanks nor marks at its ends, but for what is cut from each. -/
def Trimmable (cs : List Char) : Prop :=
  ∃ front core back, cs = front ++ core ++ back ∧ Cuttable front ∧ Cuttable back ∧
    Bare isBlank core ∧ Bare isMark core

theorem exists_cut (p : Char → Bool) (cs : List Char) :
    ∃ front back, cs = front ++ strip p cs ++ back ∧
      (∀ c ∈ front, p c = true) ∧ ∀ c ∈ back, p c = true := by
  refine ⟨cs.takeWhile p, ((cs.dropWhile p).reverse.takeWhile p).reverse, ?_, ?_, ?_⟩
  · rw [strip, dropTail, List.append_assoc, ← List.reverse_append,
      List.takeWhile_append_dropWhile, List.reverse_reverse, List.takeWhile_append_dropWhile]
  · exact fun c member => List.mem_takeWhile_imp member
  · exact fun c member => List.mem_takeWhile_imp (List.mem_reverse.1 member)

/-- Three cuts take a cuttable run from each end. -/
theorem trimmable_of_bare (blanks : Bare isBlank (trimChars cs))
    (marks : Bare isMark (trimChars cs)) : Trimmable cs := by
  obtain ⟨b₁, b₄, outer, blank₁, blank₄⟩ := exists_cut isBlank cs
  obtain ⟨m₁, m₂, middle, mark₁, mark₂⟩ := exists_cut isMark (strip isBlank cs)
  obtain ⟨b₂, b₃, inner, blank₂, blank₃⟩ :=
    exists_cut isBlank (strip isMark (strip isBlank cs))
  rw [← trimChars_eq] at inner
  refine ⟨b₁ ++ m₁ ++ b₂, trimChars cs, b₃ ++ m₂ ++ b₄, ?_,
    ⟨b₁, m₁, b₂, rfl, blank₁, mark₁, blank₂⟩, ⟨b₃, m₂, b₄, rfl, blank₃, mark₂, blank₄⟩,
    blanks, marks⟩
  calc cs = b₁ ++ (m₁ ++ (b₂ ++ trimChars cs ++ b₃) ++ m₂) ++ b₄ :=
        by rw [← inner, ← middle, ← outer]
    _ = b₁ ++ m₁ ++ b₂ ++ trimChars cs ++ (b₃ ++ m₂ ++ b₄) := by simp only [List.append_assoc]

/-! ## Cutting around a core -/

/-- Cutting leaves the core, whose ends it does not cut. -/
theorem strip_around (nonempty : core ≠ []) (bare : Bare p core) :
    strip p (front ++ core ++ back) = front.dropWhile p ++ core ++ dropTail p back := by
  have head : (core ++ back).dropWhile p = core ++ back :=
    dropWhile_of_head fun c first =>
      bare.1 c (by rwa [List.head?_append_of_ne_nil _ nonempty] at first)
  have left : (front ++ (core ++ back)).dropWhile p = front.dropWhile p ++ (core ++ back) := by
    rw [List.dropWhile_append, head]
    split
    · rename_i empty
      rw [List.isEmpty_iff.1 empty, List.nil_append]
    · rfl
  have last : (core.reverse ++ (front.dropWhile p).reverse).dropWhile p =
      core.reverse ++ (front.dropWhile p).reverse :=
    dropWhile_of_head fun c first => bare.2 c (by
      rwa [List.head?_append_of_ne_nil _ (by simpa using nonempty), List.head?_reverse] at first)
  have right : dropTail p (front.dropWhile p ++ core ++ back) =
      front.dropWhile p ++ core ++ dropTail p back := by
    rw [dropTail, dropTail, List.reverse_append, List.reverse_append, List.dropWhile_append, last]
    split
    · rename_i empty
      rw [List.isEmpty_iff.1 empty, List.reverse_nil, List.append_nil, List.reverse_append,
        List.reverse_reverse, List.reverse_reverse]
    · simp only [List.reverse_append, List.reverse_reverse, List.append_assoc]
  rw [strip, List.append_assoc, left, ← List.append_assoc, right]

theorem Cuttable.reverse (cut : Cuttable run) : Cuttable run.reverse := by
  obtain ⟨before, marks, behind, rfl, blank, mark, blank'⟩ := cut
  refine ⟨behind.reverse, marks.reverse, before.reverse, by simp, ?_, ?_, ?_⟩
  · simpa using blank'
  · simpa using mark
  · simpa using blank

/-- Three cuts from one side take all of a cuttable run. -/
theorem Cuttable.dropWhile_eq_nil (cut : Cuttable run) :
    ((run.dropWhile isBlank).dropWhile isMark).dropWhile isBlank = [] := by
  obtain ⟨before, marks, behind, rfl, blank, mark, blank'⟩ := cut
  have left : behind.dropWhile isMark = behind :=
    dropWhile_of_head fun c first => isMark_of_isBlank (blank' c (List.mem_of_mem_head? first))
  have gone : behind.dropWhile isBlank = [] := List.dropWhile_eq_nil_iff.2 blank'
  rw [List.append_assoc, List.dropWhile_append_of_pos blank]
  cases marks with
  | nil => simp [gone]
  | cons m marks =>
      have stays : ((m :: marks) ++ behind).dropWhile isBlank = (m :: marks) ++ behind :=
        List.dropWhile_cons_of_neg (by simp [isBlank_of_isMark (mark m List.mem_cons_self)])
      rw [stays, List.dropWhile_append_of_pos mark, left, gone]

theorem Cuttable.dropTail_eq_nil (cut : Cuttable run) :
    dropTail isBlank (dropTail isMark (dropTail isBlank run)) = [] := by
  simpa [dropTail] using cut.reverse.dropWhile_eq_nil

theorem strip_of_forall (cut : ∀ c ∈ cs, p c = true) : strip p cs = [] := by
  rw [strip, List.dropWhile_eq_nil_iff.2 cut]
  rfl

theorem trimChars_of_marks (marks : ∀ c ∈ cs, isMark c = true) : trimChars cs = [] := by
  have noBlank : strip isBlank cs = cs :=
    strip_of_bare (bare_of_forall fun c member => isBlank_of_isMark (marks c member))
  rw [trimChars_eq, noBlank, strip_of_forall marks]
  rfl

/-- Two cuttable runs without a core between them are cut altogether. -/
theorem trimChars_of_cuttable (left : Cuttable front) (right : Cuttable back) :
    trimChars (front ++ back) = [] := by
  obtain ⟨b₁, m₁, b₂, rfl, blank₁, mark₁, blank₂⟩ := left
  obtain ⟨b₃, m₂, b₄, rfl, blank₃, mark₂, blank₄⟩ := right
  have between : ∀ c ∈ b₂ ++ b₃, isBlank c = true := List.forall_mem_append.2 ⟨blank₂, blank₃⟩
  have whole : b₁ ++ m₁ ++ b₂ ++ (b₃ ++ m₂ ++ b₄) = b₁ ++ (m₁ ++ (b₂ ++ b₃) ++ m₂) ++ b₄ := by
    simp only [List.append_assoc]
  rw [whole, trimChars_append_right blank₄, trimChars_append_left blank₁]
  cases m₁ with
  | nil => rw [List.nil_append, trimChars_append_left between, trimChars_of_marks mark₂]
  | cons m m₁ =>
      rcases List.eq_nil_or_concat' m₂ with rfl | ⟨m₂, m', rfl⟩
      · rw [List.append_nil, trimChars_append_right between, trimChars_of_marks mark₁]
      · -- The blanks stand between marks, so the first cut takes nothing.
        have first : strip isBlank (m :: m₁ ++ (b₂ ++ b₃) ++ (m₂ ++ [m'])) =
            m :: m₁ ++ (b₂ ++ b₃) ++ (m₂ ++ [m']) := by
          refine strip_of_bare ((bare_append_iff (by simp) (by simp)).2 ⟨?_, ?_⟩)
          · simpa using isBlank_of_isMark (mark₁ m List.mem_cons_self)
          · simpa using isBlank_of_isMark (mark₂ m' (by simp))
        have free : Bare isMark (b₂ ++ b₃) :=
          bare_of_forall fun c member => isMark_of_isBlank (between c member)
        rw [trimChars_eq, first, strip_append_right mark₂, strip_append_left mark₁,
          strip_of_bare free, strip_of_forall between]

/-- Of a trimmable text its core is left. -/
theorem trimChars_around (left : Cuttable front) (right : Cuttable back)
    (blanks : Bare isBlank core) (marks : Bare isMark core) :
    trimChars (front ++ core ++ back) = core := by
  by_cases empty : core = []
  · rw [empty, List.append_nil]
    exact trimChars_of_cuttable left right
  · rw [trimChars_eq, strip_around empty blanks, strip_around empty marks,
      strip_around empty blanks, left.dropWhile_eq_nil, right.dropTail_eq_nil, List.nil_append,
      List.append_nil]

/-- **When trimming is complete**: no blank and no mark is left at an end exactly if all
blanks and marks at an end are blanks, then marks, then blanks. -/
theorem trimChars_bare_iff :
    Bare isBlank (trimChars cs) ∧ Bare isMark (trimChars cs) ↔ Trimmable cs := by
  constructor
  · exact fun ⟨blanks, marks⟩ => trimmable_of_bare blanks marks
  · intro whole
    obtain ⟨front, core, back, rfl, left, right, blanks, marks⟩ := whole
    rw [trimChars_around left right blanks marks]
    exact ⟨blanks, marks⟩

end Text

namespace Line

open Text

/-- What is read from a line is read again from its trimmed text where that is printed,
indented, and the text of a line alone makes that line. -/
def ReadsAgain (raw : String) : Prop :=
  ∀ number line, ofText? raw number = some line →
    ofText? ("  " ++ line.text) number = some line ∧
      ('\n' ∉ raw.toList → linesOf ("  " ++ line.text) = [{ line with number := 1 }])

theorem ofText?_eq_some_iff {raw : String} {number : Int} {line : Line} :
    ofText? raw number = some line ↔
      kind? (trim raw) = some line.kind ∧ line.text = trim raw ∧ line.number = number := by
  rw [ofText?, Option.map_eq_some_iff]
  constructor
  · rintro ⟨kind, sorted, rfl⟩
    exact ⟨sorted, rfl, rfl⟩
  · rintro ⟨sorted, text, rfl⟩
    exact ⟨line.kind, sorted, by cases line; simp_all⟩

theorem readsAgain_of_trim {raw : String} (settled : trim (trim raw) = trim raw) :
    ReadsAgain raw := by
  intro number line read
  obtain ⟨sorted, text, counted⟩ := ofText?_eq_some_iff.1 read
  have again (n : Int) : ofText? ("  " ++ line.text) n = some { line with number := n } := by
    rw [ofText?_eq_some_iff, trim_indented, text, settled]
    exact ⟨sorted, rfl, rfl⟩
  refine ⟨by rw [again, ← counted], fun oneLine => ?_⟩
  have noLineEnd : '\n' ∉ ("  " ++ line.text).toList := by
    rw [String.toList_append, List.mem_append, text, toList_trim]
    rintro (indent | inside)
    · exact absurd indent (by decide)
    · exact oneLine ((trimChars_part raw.toList).subset inside)
  rw [linesOf, pieces_of_not_mem noLineEnd, ofLines, again, ofLines]
  rfl

/-- **When trimming a line settles it**: the trimmed line has neither blanks nor marks at
its ends, it is its own trimming, and what is read from it is read again where it is
printed, exactly if at most one run of marks with blanks around it stands at each end. -/
theorem trim_settles_iff (raw : String) :
    (Bare isBlank (trim raw).toList ∧ Bare isMark (trim raw).toList) ∧
        trim (trim raw) = trim raw ∧ ReadsAgain raw ↔
      Trimmable raw.toList := by
  rw [← trimChars_bare_iff, ← toList_trim]
  refine ⟨fun settles => settles.1, fun bare => ?_⟩
  have settled := trim_eq_self_iff.2 bare
  exact ⟨bare, settled, readsAgain_of_trim settled⟩

/-- A mark between two blanks at the start of a line is cut with them, and the mark behind
is left: the line is content first and opens a model when it is read again. -/
theorem mark_between_blanks_stays :
    let raw := "\uFEFF \uFEFFmodel A \x7b"
    trim raw = "\uFEFFmodel A \x7b" ∧ ¬ Bare isMark (trim raw).toList ∧
      trim (trim raw) = "model A \x7b" ∧
      ofText? raw 1 = some ⟨.content, trim raw, 1⟩ ∧
      ofText? ("  " ++ trim raw) 1 = some ⟨.modelOpen "A", "model A \x7b", 1⟩ := by
  decide +kernel

end Line

end SchemaDiagram
