/-
# SchemaDiagram.Proofs.Console.Wrap -- texts that fit one line of the console

Filling lines loses nothing: while the words of a line are put on lines, these hold the
words in their order (`content_foldl_addWord`).  So if one line comes of it, this line
has all of the text, and only what is cut off behind it is missing.

A plain text that is shorter than a line is wrapped into itself (`wrap_of_short`).  A text
that is wrapped into such a line, with no blank at its end, is that line, tabs aside:
what is cut off is cut where the line is full, and this line is not
(`untabbed_of_wrap`).
-/
import SchemaDiagram.Console.Wrap
import SchemaDiagram.Proofs.Text.Search

namespace SchemaDiagram.Console

set_option autoImplicit false

open Text (isBlank cellWidth)

variable {width : Nat} {overflow : Overflow} {cs t : List Char}

/-! ## Plain characters -/

/-- A printable character of ASCII; it takes one column. -/
def isPlain (c : Char) : Bool :=
  0x20 ≤ c.toNat && c.toNat < 0x7F

theorem ne_of_isPlain {c d : Char} (plain : isPlain c = true) (other : isPlain d = false) :
    c ≠ d := by
  rintro rfl
  rw [plain] at other
  cases other

theorem cellWidth_of_isPlain {c : Char} (plain : isPlain c = true) : cellWidth c = 1 := by
  rw [isPlain] at plain
  rw [cellWidth, if_pos plain]

theorem cellsAfter_of_plain (plain : ∀ c ∈ cs, isPlain c = true) (last : Option Char) :
    cellsAfter last cs = cs.length := by
  induction cs generalizing last with
  | nil => rfl
  | cons c cs ih =>
      rw [List.forall_mem_cons] at plain
      have noJoiner : c ≠ joiner := ne_of_isPlain plain.1 (by decide)
      have noMark : c ≠ pictureMark := ne_of_isPlain plain.1 (by decide)
      have wide := cellWidth_of_isPlain plain.1
      rw [cellsAfter.eq_def]
      simp only [noJoiner, noMark, wide, ih plain.2, if_false, Nat.one_ne_zero, List.length_cons]
      omega

theorem cellsOf_of_plain (plain : ∀ c ∈ cs, isPlain c = true) : cellsOf cs = cs.length :=
  cellsAfter_of_plain plain none

/-! ## Glyphs -/

namespace Glyph

variable {done gs : List Glyph} {last : Option Char}

def text (gs : List Glyph) : List Char :=
  gs.flatMap (·.chars)

/-- A glyph of plain characters has a column for each at most. -/
def IsNarrow (g : Glyph) : Prop :=
  (∀ c ∈ g.chars, isPlain c = true) → g.width ≤ g.chars.length

theorem text_after (cs : List Char) : text (after done last cs) = text done.reverse ++ cs := by
  fun_induction after done last cs <;> simp_all [text, alone, add]

theorem text_ofChars (cs : List Char) : text (ofChars cs) = cs :=
  text_after cs

theorem isNarrow_add {g : Glyph} {more : List Char} {w : Nat} {c : Char} (member : c ∈ more)
    (other : isPlain c = false) : (g.add more w).IsNarrow := by
  intro plain
  have := plain c (List.mem_append_right _ member)
  rw [other] at this
  cases this

theorem isNarrow_alone {c : Char} {w : Nat} (within : w ≤ cellWidth c) :
    (alone c w).IsNarrow := by
  intro plain
  have wide := cellWidth_of_isPlain (plain c List.mem_cons_self)
  exact within.trans wide.le

theorem isNarrow_after (narrow : ∀ g ∈ done, g.IsNarrow) (cs : List Char) :
    ∀ g ∈ after done last cs, g.IsNarrow := by
  have grown {g : Glyph} {gs : List Glyph} {more : List Char} {w : Nat} {c : Char}
      (narrow : ∀ h ∈ g :: gs, h.IsNarrow) (member : c ∈ more) (other : isPlain c = false) :
      ∀ h ∈ g.add more w :: gs, h.IsNarrow :=
    List.forall_mem_cons.2 ⟨isNarrow_add member other, (List.forall_mem_cons.1 narrow).2⟩
  fun_induction after done last cs with
  | case1 done last => exact fun g member => narrow g (List.mem_reverse.1 member)
  | case2 last c rest measured ih =>
      refine ih (List.forall_mem_singleton.2 (isNarrow_alone ?_))
      show (if _ then 0 else cellWidth c) ≤ cellWidth c
      split
      · exact Nat.zero_le _
      · exact Nat.le_refl _
  | case3 last g more =>
      exact fun h member => grown narrow (c := joiner) (by simp) (by decide) h
        (List.mem_reverse.1 member)
  | case4 last g more c rest ih => exact ih (grown narrow (c := joiner) (by simp) (by decide))
  | case5 last rest g more _ _ ih =>
      exact ih (grown narrow (c := pictureMark) (by simp) (by decide))
  | case6 last rest g more _ _ ih =>
      exact ih (grown narrow (c := pictureMark) (by simp) (by decide))
  | case7 last c rest g more _ _ noWidth ih =>
      refine ih (grown narrow List.mem_cons_self ?_)
      by_contra plain
      rw [cellWidth_of_isPlain (Bool.not_eq_false _ ▸ plain)] at noWidth
      cases noWidth
  | case8 last c rest g more _ _ _ ih =>
      exact ih (List.forall_mem_cons.2 ⟨isNarrow_alone (Nat.le_refl _), narrow⟩)

/-- The first columns of glyphs are all of them, if these columns are not filled and hold
plain characters with no blank at their end. -/
theorem takeColumns_eq_text {gs : List Glyph} (narrow : ∀ g ∈ gs, g.IsNarrow)
    (plain : ∀ c ∈ takeColumns width gs, isPlain c = true)
    (short : (takeColumns width gs).length < width)
    (last : (takeColumns width gs).getLast? ≠ some ' ') : takeColumns width gs = text gs := by
  induction gs generalizing width with
  | nil => rfl
  | cons g gs ih =>
      rw [List.forall_mem_cons] at narrow
      rw [takeColumns] at plain short last ⊢
      split at plain
      · rename_i fits
        rw [if_pos fits] at short last ⊢
        rw [List.forall_mem_append] at plain
        have wide := narrow.1 plain.1
        rw [List.length_append] at short
        rw [ih narrow.2 plain.2 (by omega), text, text, List.flatMap_cons]
        intro blank
        refine last ?_
        rw [List.getLast?_append, blank, Option.some_or]
      · rename_i tooWide
        rw [if_neg tooWide] at short last
        split at short
        · omega
        · rename_i someRoom
          rw [if_neg someRoom] at last
          exact absurd rfl last

/-- Cutting parts off loses nothing. -/
theorem flatten_chopFrom (part : List Char) (used : Nat) (gs : List Glyph) :
    (chopFrom width part used gs).flatten = part ++ text gs := by
  induction gs generalizing part used with
  | nil => cases part <;> simp [chopFrom, text]
  | cons g gs ih =>
      rw [chopFrom]
      split <;> simp [ih, text]

end Glyph

theorem flatten_chop (width : Nat) (cs : List Char) : (chop width cs).flatten = cs := by
  rw [chop, Glyph.flatten_chopFrom, List.nil_append, Glyph.text_ofChars]

/-! ## Words -/

theorem flatten_blankedWords (cs : List Char) : (blankedWords cs).flatten = cs := by
  induction cs with
  | nil => rfl
  | cons c cs ih =>
      rw [blankedWords]
      cases cut : blankedWords cs with
      | nil =>
          rw [cut, List.flatten_nil] at ih
          rw [← ih]
          rfl
      | cons head more =>
          rw [cut, List.flatten_cons] at ih
          dsimp only
          split <;> simp [ih]

/-- The words of a line are the line, or there are none. -/
theorem flatten_wordsOfLine (cs : List Char) :
    wordsOfLine cs = [] ∨ (wordsOfLine cs).flatten = cs := by
  have whole := flatten_blankedWords cs
  rw [wordsOfLine]
  split
  · exact .inl rfl
  · right
    split
    · rename_i first second more cut
      rw [cut] at whole
      split <;> simpa using whole
    · exact whole

/-! ## Filling lines -/

namespace Filling

/-- All that is on the lines. -/
def content (f : Filling) : List Char :=
  f.full.reverse.flatten ++ f.line

theorem content_breakLine (f : Filling) : f.breakLine.content = f.content := by
  rw [breakLine]
  split <;> simp [content]

theorem content_add (f : Filling) (word : List Char) :
    (f.add word).content = f.content ++ word := by
  simp [content, add]

theorem content_addParts (f : Filling) (parts : List (List Char)) :
    (f.addParts parts).content = f.content ++ parts.flatten := by
  induction parts generalizing f with
  | nil => simp [addParts]
  | cons part rest ih =>
      rw [addParts, ih, content_add, content_breakLine, List.flatten_cons, List.append_assoc]

theorem content_addWord (f : Filling) (word : List Char) :
    (f.addWord overflow width word).content = f.content ++ word := by
  unfold addWord
  dsimp only
  split
  · exact content_add f word
  · split
    · rw [content_addParts, flatten_chop]
    · rw [content_add, content_breakLine]

theorem content_foldl_addWord (f : Filling) (ws : List (List Char)) :
    (ws.foldl (addWord overflow width) f).content = f.content ++ ws.flatten := by
  induction ws generalizing f with
  | nil => simp
  | cons w ws ih => rw [List.foldl_cons, ih, content_addWord, List.flatten_cons, List.append_assoc]

/-- Plain words that fit are all put on the line. -/
theorem foldl_addWord_of_fits {ws : List (List Char)} (f : Filling)
    (plain : ∀ c ∈ ws.flatten, isPlain c = true) (fits : f.used + ws.flatten.length ≤ width) :
    ws.foldl (addWord overflow width) f =
      { f with line := f.line ++ ws.flatten, used := f.used + ws.flatten.length } := by
  induction ws generalizing f with
  | nil => simp
  | cons w ws ih =>
      rw [List.flatten_cons, List.forall_mem_append] at plain
      rw [List.flatten_cons, List.length_append] at fits
      have start : withoutBlanksBehind w <+: w := Text.dropTail_start isBlank w
      have size : cellsOf (withoutBlanksBehind w) ≤ w.length := by
        rw [cellsOf_of_plain fun c member => plain.1 c (start.subset member)]
        exact start.length_le
      have added : f.addWord overflow width w = f.add w := by
        unfold addWord
        dsimp only
        rw [if_pos (by omega)]
      have wide : cellsOf w = w.length := cellsOf_of_plain plain.1
      rw [List.foldl_cons, added, ih (f.add w) plain.2 (by rw [add, wide]; dsimp only; omega), add,
        wide, List.flatten_cons, List.length_append, List.append_assoc, Nat.add_assoc]

end Filling

/-! ## Lines -/

/-- A line with its tabs filled up, if it has any. -/
def untabbed (cs : List Char) : List Char :=
  if cs.contains '\t' then expandTabs cs else cs

theorem untabbed_of_no_tab (noTab : '\t' ∉ cs) : untabbed cs = cs := by
  rw [untabbed, if_neg (by simpa using noTab)]

/-- The lines that are filled with a line. -/
def filled (overflow : Overflow) (width : Nat) (cs : List Char) : Filling :=
  match wordsOfLine cs with
  | [] => { line := cs }
  | ws => ws.foldl (Filling.addWord overflow width) {}

theorem brokenLine_eq (cs : List Char) :
    brokenLine overflow width cs =
      ((filled overflow width (untabbed cs)).line ::
        (filled overflow width (untabbed cs)).full).reverse.map (cropBlanks width) := rfl

theorem content_filled (overflow : Overflow) (width : Nat) (cs : List Char) :
    (filled overflow width cs).content = cs := by
  rw [filled]
  split
  · rfl
  · rename_i ws nonempty
    rw [Filling.content_foldl_addWord]
    exact (flatten_wordsOfLine cs).resolve_left nonempty

theorem filled_of_fits (overflow : Overflow) (plain : ∀ c ∈ cs, isPlain c = true)
    (fits : cs.length ≤ width) :
    (filled overflow width cs).line = cs ∧ (filled overflow width cs).full = [] := by
  rw [filled]
  split
  · exact ⟨rfl, rfl⟩
  · rename_i ws nonempty
    have whole := (flatten_wordsOfLine cs).resolve_left nonempty
    rw [Filling.foldl_addWord_of_fits {} (by rwa [whole]) (by rw [whole]; simpa using fits)]
    exact ⟨whole, rfl⟩

theorem cropBlanks_of_fits (fits : cs.length ≤ width) : cropBlanks width cs = cs := by
  have noExcess : cs.length - width = 0 := by omega
  rw [cropBlanks, noExcess, Nat.zero_min, Nat.sub_zero]
  exact List.take_length

/-- Blanks are cut only where the line is full. -/
theorem eq_of_cropBlanks (crop : cropBlanks width cs = t) (short : t.length < width) : cs = t := by
  by_cases fits : cs.length ≤ width
  · rwa [cropBlanks_of_fits fits] at crop
  · rw [cropBlanks] at crop
    have length := congrArg List.length crop
    rw [List.length_take] at length
    omega

theorem crop_of_fits (plain : ∀ c ∈ cs, isPlain c = true) (fits : cs.length ≤ width) :
    crop width cs = cs := by
  rw [crop, if_pos (by rwa [cellsOf_of_plain plain])]

/-- A line is cut off only where it is full. -/
theorem eq_of_crop (cut : crop width cs = t) (plain : ∀ c ∈ t, isPlain c = true)
    (short : t.length < width) (last : t.getLast? ≠ some ' ') : cs = t := by
  rw [crop] at cut
  split at cut
  · exact cut
  · split at cut
    · omega
    · have narrow : ∀ g ∈ Glyph.ofChars cs, g.IsNarrow := Glyph.isNarrow_after (by simp) cs
      rw [← cut] at plain short last ⊢
      rw [Glyph.takeColumns_eq_text narrow plain short last, Glyph.text_ofChars]

/-! ## Wrapped texts -/

theorem wrap_ne_nil (width : Nat) (s : String) : wrap width s ≠ [] := by
  have nonempty : brokenLines .fold width s ≠ [] := by
    rw [brokenLines]
    obtain ⟨line, rest, cut⟩ := List.exists_cons_of_ne_nil (Text.piecesOf_ne_nil s.toList)
    rw [cut, List.flatMap_cons, brokenLine_eq]
    simp
  rw [wrap]
  simpa using nonempty

/-- **A short plain text is wrapped into itself.** -/
theorem wrap_of_short {s : String} (plain : ∀ c ∈ s.toList, isPlain c = true)
    (fits : s.length ≤ width) : wrap width s = [s] := by
  rw [← String.length_toList] at fits
  have oneLine : '\n' ∉ s.toList := fun member => absurd (plain _ member) (by decide)
  have noTab : '\t' ∉ s.toList := fun member => absurd (plain _ member) (by decide)
  obtain ⟨line, full⟩ := filled_of_fits .fold plain fits
  rw [wrap, brokenLines, Text.piecesOf_of_not_mem oneLine, List.flatMap_singleton, brokenLine_eq,
    untabbed_of_no_tab noTab, line, full]
  simp only [List.reverse_singleton, List.map_singleton, cropBlanks_of_fits fits, truncate,
    crop_of_fits plain fits, String.ofList_toList]

theorem brokenLine_ne_nil (cs : List Char) : brokenLine overflow width cs ≠ [] := by
  simp [brokenLine_eq]

/-- A text that is broken into one line has no line end. -/
theorem brokenLine_of_singleton {s : String} {line : List Char}
    (single : brokenLines overflow width s = [line]) :
    brokenLine overflow width s.toList = [line] := by
  obtain ⟨piece, cut, whole⟩ :=
    Text.exists_of_flatMap_singleton (fun piece _ => brokenLine_ne_nil piece) single
  rw [Text.eq_of_piecesOf_singleton cut, whole]

/-- **A text that is wrapped into a short plain line is that line**, its tabs filled up. -/
theorem untabbed_of_wrap {s t : String} (wrapped : wrap width s = [t])
    (plain : ∀ c ∈ t.toList, isPlain c = true) (short : t.length < width)
    (last : t.toList.getLast? ≠ some ' ') : untabbed s.toList = t.toList := by
  rw [← String.length_toList] at short
  rw [wrap] at wrapped
  obtain ⟨line, broken, rfl⟩ := List.map_eq_singleton_iff.1 wrapped
  rw [String.toList_ofList] at plain short last ⊢
  have whole := brokenLine_of_singleton broken
  rw [brokenLine_eq, List.map_reverse, List.map_cons, List.reverse_cons] at whole
  obtain ⟨noOther, only⟩ := List.append_inj' (show _ = [] ++ [line] from whole) rfl
  have content := content_filled .fold width (untabbed s.toList)
  rw [Filling.content, List.map_eq_nil_iff.1 (List.reverse_eq_nil_iff.1 noOther)] at content
  have cropped := eq_of_crop rfl plain short last
  have same : (filled .fold width (untabbed s.toList)).line = line :=
    eq_of_cropBlanks (List.cons.inj only).1 (cropped ▸ short)
  rw [← content, same]
  exact cropped

/-! ## Tabs -/

theorem mem_fillParts {parts : List (List Char)} {part : List Char} (member : part ∈ parts)
    {c : Char} (inside : c ∈ part) (column : Nat) : c ∈ fillParts column parts := by
  induction parts generalizing column with
  | nil => cases member
  | cons first rest ih =>
      cases rest with
      | nil => simpa [fillParts, ← List.mem_singleton.1 member] using inside
      | cons second rest =>
          rw [fillParts]
          rcases List.mem_cons.1 member with rfl | later
          · simp [inside]
          · exact List.mem_append_right _ (ih later _)
          · simp

/-- Only the tabs of a line are replaced. -/
theorem mem_untabbed {c : Char} (inside : c ∈ cs) (noTab : c ≠ '\t') : c ∈ untabbed cs := by
  rw [untabbed]
  split
  · rw [expandTabs]
    obtain ⟨part, member, there⟩ := Text.exists_mem_piecesOf inside noTab
    exact mem_fillParts member there 0
  · exact inside

end SchemaDiagram.Console
