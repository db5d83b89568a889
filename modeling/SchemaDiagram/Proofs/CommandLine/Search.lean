/-
# SchemaDiagram.Proofs.CommandLine.Search -- what a search prints

A search prints the names that it finds, each in a style and on a line of its own.  The
names are put between tags as they are, so a name that has a tag in it is not printed as
it is, or it ends the command with a breach: the lines are those of the names exactly if
every name that is found is verbatim (`search_prints_names_iff`).

What is printed tells the lines apart: each display prints one line at least, so from a
page with as many lines as there are displays every display can be read off
(`eq_of_page`).
-/
import Mathlib.Data.List.Forall2
import SchemaDiagram.Proofs.CommandLine.Outcome
import SchemaDiagram.Proofs.Console.Verbatim
import SchemaDiagram.Proofs.Diagram.Search
import SchemaDiagram.Proofs.Schema.Origin

namespace SchemaDiagram.CommandLine

set_option autoImplicit false

open Command
open Console (isPlain)

/-! ## Pages -/

/-- Lines, each with a line end behind it. -/
def page (lines : List String) : String :=
  String.join (lines.map (· ++ "\n"))

theorem append_page_nil (printed : String) : printed ++ page [] = printed := by
  rw [page, List.map_nil, String.join_nil, String.append_empty]

theorem page_cons (line : String) (lines : List String) :
    page (line :: lines) = line ++ "\n" ++ page lines := by
  rw [page, List.map_cons, String.join_cons, page]

theorem page_append (lines more : List String) :
    page (lines ++ more) = page lines ++ page more := by
  rw [page, List.map_append, String.join_append, page, page]

theorem pieces_page (lines : List String) :
    Text.pieces '\n' (page lines) = lines.flatMap (Text.pieces '\n') ++ [""] := by
  induction lines with
  | nil => rfl
  | cons line lines ih =>
      rw [page_cons, Text.pieces_append_lineEnd, ih, List.flatMap_cons, List.append_assoc]

theorem pieces_page_of_lines {lines : List String} (each : ∀ line ∈ lines, '\n' ∉ line.toList) :
    Text.pieces '\n' (page lines) = lines ++ [""] := by
  rw [pieces_page, List.flatMap_congr fun line member => Text.pieces_of_not_mem (each line member),
    List.flatMap_singleton']

theorem eq_of_flatMap_pieces {block : List String} {line : String}
    (single : block.flatMap (Text.pieces '\n') = [line]) : block = [line] := by
  obtain ⟨s, rfl, cut⟩ :=
    Text.exists_of_flatMap_singleton (fun s _ => Text.pieces_ne_nil s) single
  rw [Text.eq_of_pieces_singleton cut]

/-- Where as many blocks make up a page as it has lines, each block is its line. -/
theorem eq_of_page {blocks : List (List String)} {lines : List String}
    (nonempty : ∀ block ∈ blocks, block ≠ []) (count : blocks.length = lines.length)
    (each : ∀ line ∈ lines, '\n' ∉ line.toList) (same : page blocks.flatten = page lines) :
    blocks = lines.map ([·]) := by
  -- A line of a block may have line ends of its own, so both pages are cut into pieces;
  -- the pieces of the blocks are the lines, and no block is without one.
  have parts : blocks.flatMap (List.flatMap (Text.pieces '\n')) = lines := by
    have cut := congrArg (Text.pieces '\n') same
    rw [pieces_page, pieces_page_of_lines each, ← List.flatMap_id, List.flatMap_assoc] at cut
    exact List.append_cancel_right cut
  have cut : ∀ block ∈ blocks, block.flatMap (Text.pieces '\n') ≠ [] := by
    intro block member empty
    obtain ⟨s, rest, rfl⟩ := List.exists_cons_of_ne_nil (nonempty block member)
    exact Text.pieces_ne_nil s (List.flatMap_eq_nil_iff.1 empty s List.mem_cons_self)
  have singles := Text.map_eq_of_flatMap cut count parts
  have whole : ∀ block ∈ blocks, block.flatMap (Text.pieces '\n') = block := by
    intro block member
    obtain ⟨line, -, single⟩ := List.mem_map.1 (singles ▸ List.mem_map_of_mem member)
    rw [← single, eq_of_flatMap_pieces single.symm]
  rwa [List.map_congr_left whole, List.map_id'] at singles

/-! ## Displays -/

namespace Command

theorem perform_printLines (lines : List String) (s : Session) :
    (printLines lines).perform s = (.ok (), { s with printed := s.printed ++ page lines }) := by
  induction lines generalizing s with
  | nil =>
      rw [append_page_nil]
      rfl
  | cons line lines ih =>
      have step : (printLines (line :: lines)).perform s =
          (printLines lines).perform { s with printed := s.printed ++ (line ++ "\n") } :=
        perform_bind _ _ _
      rw [step, ih, page_cons, String.append_assoc]

/-- The lines that a text with tags is displayed as. -/
def Displays (text : String) (lines : List String) : Prop :=
  ∃ shown, Markup.render text = .ok shown ∧ Console.wrap Console.consoleWidth shown = lines

theorem Displays.ne_nil {text : String} {lines : List String} (displays : Displays text lines) :
    lines ≠ [] := by
  obtain ⟨shown, -, rfl⟩ := displays
  exact Console.wrap_ne_nil _ _

theorem perform_display_iff {text : String} {s t : Session} :
    (display text).perform s = (.ok (), t) ↔
      ∃ lines, Displays text lines ∧ t = { s with printed := s.printed ++ page lines } := by
  rw [display, perform_bind, rendered]
  cases rendered : Markup.render text with
  | ok shown =>
      change (printLines (Console.wrap Console.consoleWidth shown)).perform s = _ ↔ _
      simp [perform_printLines, Displays, rendered, eq_comm]
  | error fault =>
      refine iff_of_false (fun performed => ?_) ?_
      · cases performed
      · rintro ⟨lines, ⟨shown, succeeded, -⟩, -⟩
        rw [rendered] at succeeded
        cases succeeded

theorem perform_forM_display_iff {α : Type} {text : α → String} {items : List α} {s t : Session} :
    (items.forM fun item => display (text item)).perform s = (.ok (), t) ↔
      ∃ blocks, List.Forall₂ (fun item => Displays (text item)) items blocks ∧
        t = { s with printed := s.printed ++ page blocks.flatten } := by
  induction items generalizing s with
  | nil =>
      have performed : (([] : List α).forM fun item => display (text item)).perform s =
          (.ok (), s) := rfl
      rw [performed, Prod.mk.injEq, and_iff_right rfl]
      constructor
      · rintro rfl
        refine ⟨[], .nil, ?_⟩
        rw [List.flatten_nil, append_page_nil]
      · rintro ⟨blocks, displays, rfl⟩
        cases displays
        rw [List.flatten_nil, append_page_nil]
  | cons item items ih =>
      have step : ((item :: items).forM fun item => display (text item)) =
          (display (text item) >>= fun _ => items.forM fun item => display (text item)) := rfl
      have together (lines : List String) (blocks : List (List String)) :
          s.printed ++ page (lines :: blocks).flatten =
            s.printed ++ page lines ++ page blocks.flatten := by
        rw [List.flatten_cons, page_append, String.append_assoc]
      rw [step, perform_bind_iff]
      constructor
      · rintro ⟨_, between, front, others⟩
        obtain ⟨lines, displays, rfl⟩ := perform_display_iff.1 front
        obtain ⟨blocks, later, rfl⟩ := ih.1 others
        exact ⟨lines :: blocks, .cons displays later, by rw [together]⟩
      · rintro ⟨blocks, displays, rfl⟩
        cases displays with
        | cons displays others =>
            refine ⟨(), _, perform_display_iff.2 ⟨_, displays, rfl⟩, ih.2 ⟨_, others, ?_⟩⟩
            rw [together]

/-- Texts are displayed as one line each if they print the page of these lines. -/
theorem prints_lines_iff {α : Type} (text : α → String) {line : α → String} {items : List α}
    (s : Session) (each : ∀ item ∈ items, '\n' ∉ (line item).toList) :
    (∃ t, (items.forM fun item => display (text item)).perform s = (.ok (), t) ∧
        t.printed = s.printed ++ page (items.map line)) ↔
      ∀ item ∈ items, Displays (text item) [line item] := by
  have each : ∀ l ∈ items.map line, '\n' ∉ l.toList := List.forall_mem_map.2 each
  have lines : List.Forall₂ (fun item => Displays (text item)) items
      ((items.map line).map ([·])) ↔ ∀ item ∈ items, Displays (text item) [line item] := by
    rw [List.map_map, List.forall₂_map_right_iff, List.forall₂_same]
    rfl
  rw [← lines]
  constructor
  · rintro ⟨t, performed, printed⟩
    obtain ⟨blocks, displays, rfl⟩ := perform_forM_display_iff.1 performed
    have nonempty : ∀ block ∈ blocks, block ≠ [] := ((List.forall₂_and_left _ _).1
      (displays.flip.imp fun _ _ displayed => ⟨Displays.ne_nil displayed, displayed⟩)).1
    have count : blocks.length = (items.map line).length := by
      rw [← displays.length_eq, List.length_map]
    have same : page blocks.flatten = page (items.map line) :=
      String.append_right_inj _ |>.1 printed
    rwa [eq_of_page nonempty count each same] at displays
  · intro displays
    refine ⟨_, perform_forM_display_iff.2 ⟨_, displays, rfl⟩, ?_⟩
    rw [← List.flatMap_def, List.flatMap_singleton']

end Command

/-! ## Names -/

/-- A name that is found is not empty and has no blank at its end. -/
theorem last_of_found {text query name : String}
    (found : name ∈ ((Schema.ofText text false).search query).matches_) :
    ∃ c, name.toList.getLast? = some c ∧ Text.isBlank c = false := by
  have notBlank : Text.allBlank query = false := by
    by_contra blank
    rw [Schema.search, if_pos (by simpa using blank)] at found
    cases found
  obtain ⟨named, contained⟩ := (Schema.mem_matches_search_iff notBlank).1 found
  obtain ⟨m, member, rfl⟩ := List.mem_map.1 named
  have bare := Text.stripBlanks_eq_self_iff.1 (Schema.readName_of_mem_models member).stripped
  cases last : m.name.toList.getLast? with
  | some c => exact ⟨c, rfl, bare.2 c last⟩
  | none =>
      have within := (Text.contains_iff.1 contained).length_le
      rw [Text.toList_lower, Text.toList_lower, List.getLast?_eq_none_iff.1 last] at within
      have empty : query.toList = [] := List.length_eq_zero_iff.1 <|
        Nat.le_zero.1 ((Text.length_le_length_lowerPart [] [] query.toList).trans within)
      rw [Text.allBlank, empty] at notBlank
      cases notBlank

/-- The line of a name, with the name in a style. -/
def styledLine (name : String) : String :=
  "  - [cyan]" ++ name ++ "[/cyan]"

theorem verbatim_lead : Markup.Verbatim "  - ".toList where
  noTag := by decide
  noGuard := by decide
  noSlash := by decide
  noEmoji := by decide +kernel

/-- A short plain name is displayed as it is exactly if it is verbatim. -/
theorem displays_name_iff {name : String} {c : Char} (plain : ∀ c ∈ name.toList, isPlain c = true)
    (short : name.length ≤ 70) (last : name.toList.getLast? = some c)
    (notBlank : Text.isBlank c = false) :
    Command.Displays (styledLine name) ["  - " ++ name] ↔ Markup.Verbatim name.toList := by
  have whole : (styledLine name).toList = "  - ".toList ++
      Markup.tagged "cyan".toList (name.toList ++ Markup.tagged ('/' :: "cyan".toList) []) := by
    simp [styledLine, Markup.tagged]
  refine Markup.wrap_render_styled_iff (Markup.isStyle_of_mem "cyan" (by simp)) verbatim_lead
    whole ?_ ?_ ?_
  · have around : ∀ c ∈ "  - [cyan]".toList ++ "[/cyan]".toList, isPlain c = true :=
      List.all_eq_true.1 (by decide +kernel)
    intro c member
    rw [styledLine, String.toList_append, String.toList_append, List.append_assoc] at member
    rcases List.mem_append.1 member with front | member
    · exact around c (List.mem_append_left _ front)
    · rcases List.mem_append.1 member with inside | back
      · exact plain c inside
      · exact around c (List.mem_append_right _ back)
  · have lead : "  - ".length = 4 := by decide
    rw [String.length_append, lead]
    exact Nat.lt_of_le_of_lt (Nat.add_le_add_left short 4) (by decide)
  · rw [String.toList_append, List.getLast?_append, last, Option.some_or]
    rintro ⟨⟩
    cases notBlank

/-! ## Searches -/

section Search

variable {store : Store} {file query text : String}

theorem perform_searchSchema (readable : loadSchemaText store file = .ok text)
    (nonempty : ((Schema.ofText text false).search query).matches_ ≠ []) :
    (searchSchema file query).perform { store } =
      (((Schema.ofText text false).search query).matches_.forM fun name =>
        display (styledLine name)).perform { store } := by
  have read : (readSchemaText file).perform { store } = (.ok text, { store }) := by
    rw [readSchemaText, load, perform_get_bind, readable]
    rfl
  rw [searchSchema, perform_bind, read]
  dsimp only
  cases found : ((Schema.ofText text false).search query).matches_ with
  | nil => exact absurd found nonempty
  | cons name names => rfl

theorem prints_iff {c : Command Unit} {s : Session} {printed : String} :
    ((Outcome.ofResult (c.perform s)).exitCode = 0 ∧
        (Outcome.ofResult (c.perform s)).printed = printed) ↔
      ∃ t : Session, c.perform s = (.ok (), t) ∧ t.printed = printed := by
  cases performed : c.perform s with
  | mk result t =>
      cases result with
      | ok _ => simp [Outcome.ofResult]
      | error stop => cases stop <;> simp [Outcome.ofResult]

/-- **A search prints the names that it finds** in their order, each on a line of its own,
exactly if they are verbatim: no tag is read in one, no backslash stands before an opening
bracket or at the end, and no emoji is named. -/
theorem search_prints_names_iff {words : List String}
    (asked : Invocation.ofWords store words = .ok (.search file query))
    (readable : loadSchemaText store file = .ok text)
    (nonempty : ((Schema.ofText text false).search query).matches_ ≠ [])
    (short : ∀ name ∈ ((Schema.ofText text false).search query).matches_,
      name.length ≤ 70 ∧ ∀ c ∈ name.toList, isPlain c = true) :
    (Outcome.ofWords store words).exitCode = 0 ∧
        (Outcome.ofWords store words).printed =
          page (((Schema.ofText text false).search query).matches_.map ("  - " ++ ·)) ↔
      ∀ name ∈ ((Schema.ofText text false).search query).matches_,
        Markup.Verbatim name.toList := by
  have oneLine : ∀ name ∈ ((Schema.ofText text false).search query).matches_,
      '\n' ∉ ("  - " ++ name).toList := by
    intro name member lineEnd
    rw [String.toList_append] at lineEnd
    rcases List.mem_append.1 lineEnd with front | back
    · exact absurd front (by decide)
    · exact absurd ((short name member).2 _ back) (by decide)
  have prints := prints_lines_iff styledLine { store } oneLine
  rw [Outcome.ofWords_of_read asked, Outcome.ofInvocation, Invocation.command,
    perform_searchSchema readable nonempty, prints_iff, ← String.empty_append (s := page _), prints]
  refine forall₂_congr fun name member => ?_
  obtain ⟨c, last, notBlank⟩ := last_of_found member
  exact displays_name_iff (short name member).2 (short name member).1 last notBlank

/-- Digits start no tag. -/
theorem search_prints_bracket :
    let text := "model A[1] \x7b\n\x7d"
    let store : Store := { entries := [(["s.prisma"], .file text.toUTF8)] }
    let words := ["search", "s.prisma", "a"]
    let names := ((Schema.ofText text false).search "a").matches_
    Invocation.ofWords store words = .ok (.search "s.prisma" "a") ∧
      loadSchemaText store "s.prisma" = .ok text ∧ names = ["A[1]"] ∧
      (Outcome.ofWords store words).exitCode = 0 ∧
      (Outcome.ofWords store words).printed = page (names.map ("  - " ++ ·)) := by
  intro text store words names
  have asked : Invocation.ofWords store words = .ok (.search "s.prisma" "a") := by decide +kernel
  have readable : loadSchemaText store "s.prisma" = .ok text := by decide +kernel
  have found : names = ["A[1]"] := by decide +kernel
  have nonempty : names ≠ [] := by
    rw [found]
    exact List.cons_ne_nil _ _
  have short : ∀ name ∈ names, name.length ≤ 70 ∧ ∀ c ∈ name.toList, isPlain c = true := by
    rw [found]
    exact List.forall_mem_singleton.2 ⟨by decide, List.all_eq_true.1 (by decide)⟩
  have verbatim : ∀ name ∈ names, Markup.Verbatim name.toList := by
    rw [found]
    exact List.forall_mem_singleton.2
      { noTag := by decide
        noGuard := by decide
        noSlash := by decide
        noEmoji := by decide +kernel }
  exact ⟨asked, readable, found, (search_prints_names_iff asked readable nonempty short).2 verbatim⟩

/-- A name in brackets is read as a tag and taken from the line. -/
theorem tag_in_name_not_printed :
    let text := "model A[b] \x7b\n\x7d"
    let store : Store := { entries := [(["s.prisma"], .file text.toUTF8)] }
    let o := Outcome.ofWords store ["search", "s.prisma", "a"]
    let names := ((Schema.ofText text false).search "a").matches_
    loadSchemaText store "s.prisma" = .ok text ∧ names = ["A[b]"] ∧ o.exitCode = 0 ∧
      o.printed = "  - A\n" ∧ o.printed ≠ page (names.map ("  - " ++ ·)) := by
  decide +kernel

end Search

end SchemaDiagram.CommandLine
