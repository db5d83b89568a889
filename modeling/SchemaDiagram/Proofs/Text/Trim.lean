/-
# SchemaDiagram.Proofs.Text.Trim -- what trimming leaves

`Bare p cs` says that neither end of a text is in the class `p`.  Cutting both
ends leaves a bare text (`bare_strip`) and leaves bare texts alone
(`strip_of_bare`).

A schema line is trimmed of blanks, of byte-order marks and of blanks again.  A
text is its own trimming iff it is bare of both classes (`trimChars_eq_self_iff`);
the result of trimming is bare of blanks only (`bare_trimChars`), as a mark may
stand behind the last blanks that are cut.
-/
import SchemaDiagram.Text.Blank
import Mathlib.Data.List.DropRight
import Mathlib.Data.List.Infix

namespace SchemaDiagram.Text

set_option autoImplicit false

variable {p : Char → Bool} {cs : List Char}

theorem space_isBlank : isBlank ' ' = true := by
  decide

/-- Neither the first nor the last character is in the class `p`. -/
def Bare (p : Char → Bool) (cs : List Char) : Prop :=
  (∀ c ∈ cs.head?, p c = false) ∧ ∀ c ∈ cs.getLast?, p c = false

instance (p : Char → Bool) (cs : List Char) : Decidable (Bare p cs) :=
  @instDecidableAnd _ _ (Option.decidableForallMem _) (Option.decidableForallMem _)

/-- The ends of a text in parts are the ends of its outer parts. -/
theorem bare_append_iff {front back : List Char} (hf : front ≠ []) (hb : back ≠ []) :
    Bare p (front ++ back) ↔
      (∀ c ∈ front.head?, p c = false) ∧ ∀ c ∈ back.getLast?, p c = false := by
  rw [Bare, List.head?_append_of_ne_nil _ hf, List.getLast?_append_of_ne_nil _ hb]

theorem bare_of_forall (free : ∀ c ∈ cs, p c = false) : Bare p cs :=
  ⟨fun c hc => free c (List.mem_of_mem_head? hc),
    fun c hc => free c (List.mem_of_mem_getLast? hc)⟩

/-! ## Cutting both ends -/

theorem dropWhile_of_head (h : ∀ c ∈ cs.head?, p c = false) : cs.dropWhile p = cs := by
  cases cs with
  | nil => rfl
  | cons c rest => exact List.dropWhile_cons_of_neg (by simp [h c rfl])

theorem dropTail_of_last (h : ∀ c ∈ cs.getLast?, p c = false) : dropTail p cs = cs := by
  have reversed : cs.reverse.dropWhile p = cs.reverse :=
    dropWhile_of_head (by simpa [List.head?_reverse] using h)
  rw [dropTail, reversed, List.reverse_reverse]

theorem dropTail_start (p : Char → Bool) (cs : List Char) : dropTail p cs <+: cs :=
  List.rdropWhile_prefix p cs

theorem strip_of_bare (bare : Bare p cs) : strip p cs = cs := by
  rw [strip, dropWhile_of_head bare.1, dropTail_of_last bare.2]

theorem strip_part (p : Char → Bool) (cs : List Char) : strip p cs <:+: cs :=
  (dropTail_start p _).isInfix.trans (List.dropWhile_suffix p).isInfix

theorem head_not_of_dropWhile (p : Char → Bool) (cs : List Char) :
    ∀ c ∈ (cs.dropWhile p).head?, p c = false := by
  intro c hc
  have := List.head?_dropWhile_not p cs
  rw [Option.mem_def.1 hc] at this
  exact this

theorem bare_strip (p : Char → Bool) (cs : List Char) : Bare p (strip p cs) := by
  constructor
  · intro c hc
    obtain ⟨cut, same⟩ := dropTail_start p (cs.dropWhile p)
    have left : c ∈ (cs.dropWhile p).head? := by
      rw [← same, List.head?_append_of_ne_nil _ (fun empty => by simp [strip, empty] at hc)]
      exact hc
    exact head_not_of_dropWhile p cs c left
  · intro c hc
    rw [strip, dropTail, List.getLast?_reverse] at hc
    exact head_not_of_dropWhile p _ c hc

theorem strip_eq_self_iff : strip p cs = cs ↔ Bare p cs :=
  ⟨fun same => same ▸ bare_strip p cs, strip_of_bare⟩

/-- No character is cut but those of the class. -/
theorem mem_strip {c : Char} (inside : c ∈ cs) (free : p c = false) : c ∈ strip p cs := by
  have kept : ∀ ds : List Char, c ∈ ds → c ∈ ds.dropWhile p := by
    intro ds member
    rw [← List.takeWhile_append_dropWhile (p := p) (l := ds), List.mem_append] at member
    refine member.resolve_left fun cut => ?_
    rw [List.mem_takeWhile_imp cut] at free
    cases free
  rw [strip, dropTail, List.mem_reverse]
  exact kept _ (List.mem_reverse.2 (kept cs inside))

/-- Characters of the class in front make no difference. -/
theorem strip_append_left {front : List Char} (cut : ∀ c ∈ front, p c = true) :
    strip p (front ++ cs) = strip p cs := by
  rw [strip, List.dropWhile_append_of_pos cut, strip]

theorem strip_append_right {back : List Char} (cut : ∀ c ∈ back, p c = true) :
    strip p (cs ++ back) = strip p cs := by
  have noneLeft : back.dropWhile p = [] := List.dropWhile_eq_nil_iff.2 cut
  rw [strip, strip, List.dropWhile_append, noneLeft]
  split
  · rename_i blank
    rw [List.isEmpty_iff.1 blank]
  · have reversed : ∀ c ∈ back.reverse, p c = true := by simpa using cut
    rw [dropTail, dropTail, List.reverse_append, List.dropWhile_append_of_pos reversed]

theorem strip_of_last (h : ∀ c ∈ cs.getLast?, p c = false) : strip p cs = cs.dropWhile p := by
  refine dropTail_of_last fun c hc => h c ?_
  obtain ⟨front, whole⟩ := List.dropWhile_suffix (l := cs) p
  rw [← whole, List.getLast?_append_of_ne_nil _ (fun empty => by simp [empty] at hc)]
  exact hc

/-! ## Trimming a line -/

def isMark (c : Char) : Bool :=
  c == byteOrderMark

theorem trimChars_part (cs : List Char) : trimChars cs <:+: cs :=
  ((strip_part isBlank _).trans (strip_part _ _)).trans (strip_part isBlank cs)

theorem bare_trimChars (cs : List Char) : Bare isBlank (trimChars cs) :=
  bare_strip isBlank _

/-- A text is its own trimming iff it has neither a blank nor a mark at an end. -/
theorem trimChars_eq_self_iff : trimChars cs = cs ↔ Bare isBlank cs ∧ Bare isMark cs := by
  constructor
  · intro same
    have blanks := strip_part isBlank cs
    have marks := strip_part (· == byteOrderMark) (strip isBlank cs)
    have length : cs.length ≤ (strip (· == byteOrderMark) (strip isBlank cs)).length := by
      conv => lhs; rw [← same]
      exact (strip_part isBlank _).length_le
    -- Each of the three cuts is a part of the text before it, and none is shorter.
    have first : strip isBlank cs = cs :=
      blanks.eq_of_length (le_antisymm blanks.length_le (length.trans marks.length_le))
    rw [first] at marks length
    exact ⟨strip_eq_self_iff.1 first,
      strip_eq_self_iff.1 (marks.eq_of_length (le_antisymm marks.length_le length))⟩
  · rintro ⟨blanks, marks⟩
    have cutMarks : strip (· == byteOrderMark) cs = cs := strip_of_bare marks
    rw [trimChars, strip_of_bare blanks, cutMarks, strip_of_bare blanks]

theorem mem_trimChars {c : Char} (inside : c ∈ cs) (notBlank : isBlank c = false)
    (notMark : isMark c = false) : c ∈ trimChars cs :=
  mem_strip (mem_strip (mem_strip inside notBlank) notMark) notBlank

theorem trimChars_append_left {front : List Char} (cut : ∀ c ∈ front, isBlank c = true) :
    trimChars (front ++ cs) = trimChars cs := by
  rw [trimChars, strip_append_left cut, trimChars]

theorem trimChars_append_right {back : List Char} (cut : ∀ c ∈ back, isBlank c = true) :
    trimChars (cs ++ back) = trimChars cs := by
  rw [trimChars, strip_append_right cut, trimChars]

/-! ## On strings -/

@[simp] theorem toList_trim (s : String) : (trim s).toList = trimChars s.toList :=
  String.toList_ofList

@[simp] theorem toList_stripBlanks (s : String) :
    (stripBlanks s).toList = strip isBlank s.toList :=
  String.toList_ofList

theorem stripBlanks_eq_self_iff {s : String} : stripBlanks s = s ↔ Bare isBlank s.toList := by
  rw [← String.toList_inj, toList_stripBlanks, strip_eq_self_iff]

theorem trim_eq_self_iff {s : String} :
    trim s = s ↔ Bare isBlank s.toList ∧ Bare isMark s.toList := by
  rw [← String.toList_inj, toList_trim, trimChars_eq_self_iff]

/-- A text between two that neither blanks nor marks end is not trimmed. -/
theorem trim_enclosed {front back : String}
    (start : front.toList.head?.any (fun c => !isBlank c && !isMark c) = true)
    (stop : back.toList.getLast?.any (fun c => !isBlank c && !isMark c) = true) (s : String) :
    trim (front ++ s ++ back) = front ++ s ++ back := by
  rw [Option.any_eq_true] at start stop
  obtain ⟨c, first, startFree⟩ := start
  obtain ⟨d, last, stopFree⟩ := stop
  rw [Bool.and_eq_true, Bool.not_eq_true', Bool.not_eq_true'] at startFree stopFree
  have chars : front.toList ≠ [] := by
    intro empty
    simp [empty] at first
  have chars' : s.toList ++ back.toList ≠ [] := by
    intro empty
    simp [(List.append_eq_nil_iff.1 empty).2] at last
  have last' : (s.toList ++ back.toList).getLast? = some d := by
    rw [List.getLast?_append, last, Option.some_or]
  rw [trim_eq_self_iff, String.toList_append, String.toList_append, List.append_assoc,
    bare_append_iff chars chars', bare_append_iff chars chars', first, last']
  simp [startFree, stopFree]

theorem trim_padded {left right : String} (leftBlank : allBlank left = true)
    (rightBlank : allBlank right = true) (s : String) : trim (left ++ s ++ right) = trim s := by
  rw [allBlank, List.all_eq_true] at leftBlank rightBlank
  rw [trim, String.toList_append, String.toList_append, trimChars_append_right rightBlank,
    trimChars_append_left leftBlank, trim]

theorem trim_indented (s : String) : trim ("  " ++ s) = trim s := by
  have spaces : allBlank "  " = true := by decide
  have nothing : allBlank "" = true := by decide
  have padded := trim_padded spaces nothing s
  rwa [String.append_empty] at padded

end SchemaDiagram.Text
