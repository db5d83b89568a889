/-
# SchemaDiagram.Proofs.Text.Search -- cutting a text and finding texts in it

A text cut at line ends is cut part by part (`pieces_append_lineEnd`), and no
piece holds a line end.

`startsWith`, `endsWith` and `contains` are the relations of a text to its
starts, ends and parts.  A key without blanks never reaches over a blank, so it
stands in a text iff it stands in one of its words (`contains_iff_words`).
-/
import SchemaDiagram.Proofs.Text.Words

namespace SchemaDiagram.Text

set_option autoImplicit false

/-! ## Parts -/

section Parts

variable {α β : Type} {f : α → List β} {xs : List α}

theorem length_le_length_flatMap (nonempty : ∀ x ∈ xs, f x ≠ []) :
    xs.length ≤ (xs.flatMap f).length := by
  induction xs with
  | nil => exact Nat.le_refl _
  | cons x xs ih =>
      rw [List.forall_mem_cons] at nonempty
      have here := List.length_pos_of_ne_nil nonempty.1
      have later := ih nonempty.2
      rw [List.flatMap_cons, List.length_append, List.length_cons]
      omega

theorem exists_of_flatMap_singleton {y : β} (nonempty : ∀ x ∈ xs, f x ≠ [])
    (single : xs.flatMap f = [y]) : ∃ x, xs = [x] ∧ f x = [y] := by
  have within := length_le_length_flatMap nonempty
  rw [single, List.length_singleton] at within
  match xs, within with
  | [], _ => cases single
  | [x], _ => exact ⟨x, rfl, by rwa [List.flatMap_singleton] at single⟩

/-- If there are as many results as there are parts, each part has one. -/
theorem map_eq_of_flatMap {ys : List β} (nonempty : ∀ x ∈ xs, f x ≠ [])
    (count : xs.length = ys.length) (same : xs.flatMap f = ys) : xs.map f = ys.map ([·]) := by
  induction xs generalizing ys with
  | nil =>
      rw [← same]
      rfl
  | cons x xs ih =>
      rw [List.forall_mem_cons] at nonempty
      rw [List.flatMap_cons] at same
      cases here : f x with
      | nil => exact absurd here nonempty.1
      | cons y more =>
          have later := length_le_length_flatMap nonempty.2
          rw [here] at same
          subst same
          simp only [List.length_cons, List.length_append] at count
          have noMore : more = [] := List.length_eq_zero_iff.1 (by omega)
          subst noMore
          rw [List.map_cons, here, ih nonempty.2 (by omega) rfl]
          rfl

end Parts

/-! ## Pieces -/

section Pieces

variable {sep : Char}

theorem piecesOf_ne_nil (cs : List Char) : piecesOf sep cs ≠ [] := by
  cases cs with
  | nil => simp [piecesOf]
  | cons c rest =>
      simp only [piecesOf]
      split
      · simp
      · split <;> simp

theorem piecesOf_cons_of_ne {c : Char} (different : c ≠ sep) (cs : List Char) :
    ∃ head rest, piecesOf sep cs = head :: rest ∧
      piecesOf sep (c :: cs) = (c :: head) :: rest := by
  cases cut : piecesOf sep cs with
  | nil => exact absurd cut (piecesOf_ne_nil cs)
  | cons head rest => exact ⟨head, rest, rfl, by simp [piecesOf, different, cut]⟩

theorem piecesOf_append (xs ys : List Char) :
    piecesOf sep (xs ++ sep :: ys) = piecesOf sep xs ++ piecesOf sep ys := by
  induction xs with
  | nil => simp [piecesOf]
  | cons c cs ih =>
      simp only [List.cons_append, piecesOf, ih]
      split
      · rfl
      · cases h : piecesOf sep cs with
        | nil => exact absurd h (piecesOf_ne_nil cs)
        | cons head rest => rfl

theorem piecesOf_of_not_mem {cs : List Char} (absent : sep ∉ cs) : piecesOf sep cs = [cs] := by
  induction cs with
  | nil => rfl
  | cons c rest ih =>
      have different : c ≠ sep := fun same => absent (by simp [same])
      rw [piecesOf, if_neg different, ih fun mem => absent (List.mem_cons_of_mem _ mem)]

/-- A text that is one piece has no separator. -/
theorem eq_of_piecesOf_singleton {cs piece : List Char} (single : piecesOf sep cs = [piece]) :
    cs = piece := by
  have absent : sep ∉ cs := by
    intro member
    obtain ⟨front, back, rfl⟩ := List.append_of_mem member
    rw [piecesOf_append] at single
    have first : 0 < (piecesOf sep front).length :=
      List.length_pos_of_ne_nil (piecesOf_ne_nil front)
    have second : 0 < (piecesOf sep back).length :=
      List.length_pos_of_ne_nil (piecesOf_ne_nil back)
    have lengths := congrArg List.length single
    rw [List.length_append, List.length_singleton] at lengths
    omega
  rw [piecesOf_of_not_mem absent] at single
  exact (List.cons.inj single).1

theorem not_mem_of_mem_piecesOf {cs piece : List Char} (mem : piece ∈ piecesOf sep cs) :
    sep ∉ piece := by
  induction cs generalizing piece with
  | nil =>
      rw [piecesOf, List.mem_singleton] at mem
      simp [mem]
  | cons c rest ih =>
      simp only [piecesOf] at mem
      split at mem
      · rcases List.mem_cons.1 mem with rfl | mem
        · simp
        · exact ih mem
      · rename_i different
        split at mem
        · rw [List.mem_singleton] at mem
          simpa [mem] using Ne.symm different
        · rename_i head tail cut
          rcases List.mem_cons.1 mem with rfl | mem
          · have := ih (cut ▸ List.mem_cons_self)
            simpa [this] using Ne.symm different
          · exact ih (cut ▸ List.mem_cons_of_mem _ mem)

theorem subset_of_mem_piecesOf {cs piece : List Char} (mem : piece ∈ piecesOf sep cs) :
    piece ⊆ cs := by
  induction cs generalizing piece with
  | nil =>
      rw [piecesOf, List.mem_singleton] at mem
      subst mem
      exact List.nil_subset []
  | cons c rest ih =>
      by_cases same : c = sep
      · rw [piecesOf, if_pos same, List.mem_cons] at mem
        rcases mem with rfl | mem
        · exact List.nil_subset _
        · exact List.subset_cons_of_subset c (ih mem)
      · obtain ⟨head, tail, cut, longer⟩ := piecesOf_cons_of_ne same rest
        rw [longer, List.mem_cons] at mem
        rcases mem with rfl | mem
        · exact List.cons_subset_cons c (ih (cut ▸ List.mem_cons_self))
        · exact List.subset_cons_of_subset c (ih (cut ▸ List.mem_cons_of_mem head mem))

/-- Every character but the separators stands in a piece. -/
theorem exists_mem_piecesOf {cs : List Char} {c : Char} (inside : c ∈ cs) (other : c ≠ sep) :
    ∃ piece ∈ piecesOf sep cs, c ∈ piece := by
  induction cs with
  | nil => cases inside
  | cons d rest ih =>
      by_cases same : d = sep
      · rw [piecesOf, if_pos same]
        have later := (List.mem_cons.1 inside).resolve_left fun first => other (first.trans same)
        obtain ⟨piece, member, there⟩ := ih later
        exact ⟨piece, List.mem_cons_of_mem _ member, there⟩
      · obtain ⟨head, tail, cut, longer⟩ := piecesOf_cons_of_ne same rest
        rw [longer]
        rcases List.mem_cons.1 inside with rfl | later
        · exact ⟨_, List.mem_cons_self, List.mem_cons_self⟩
        · obtain ⟨piece, member, there⟩ := ih later
          rcases List.mem_cons.1 (cut ▸ member) with rfl | member
          · exact ⟨_, List.mem_cons_self, List.mem_cons_of_mem _ there⟩
          · exact ⟨piece, List.mem_cons_of_mem _ member, there⟩

/-- A text is cut in one way at the first separator. -/
theorem eq_of_first_piece {xs ys tail last : List Char} (absent : sep ∉ xs)
    (absent' : sep ∉ ys) (same : xs ++ sep :: tail = ys ++ sep :: last) :
    xs = ys ∧ tail = last := by
  have pieces : [xs] ++ piecesOf sep tail = [ys] ++ piecesOf sep last := by
    rw [← piecesOf_of_not_mem absent, ← piecesOf_of_not_mem absent', ← piecesOf_append,
      ← piecesOf_append, same]
  obtain ⟨rfl, -⟩ := List.cons_eq_cons.1 pieces
  exact ⟨rfl, List.tail_eq_of_cons_eq (List.append_cancel_left same)⟩

/-- A text is cut in one way at the last separator. -/
theorem eq_of_last_piece {xs ys tail last : List Char} (absent : sep ∉ tail)
    (absent' : sep ∉ last) (same : xs ++ sep :: tail = ys ++ sep :: last) :
    xs = ys ∧ tail = last := by
  have pieces : piecesOf sep xs ++ [tail] = piecesOf sep ys ++ [last] := by
    rw [← piecesOf_of_not_mem absent, ← piecesOf_of_not_mem absent', ← piecesOf_append,
      ← piecesOf_append, same]
  obtain ⟨-, rfl⟩ := List.append_singleton_inj.1 pieces
  exact ⟨List.append_cancel_right same, rfl⟩

/-- Texts with separators between them are cut apart again. -/
theorem piecesOf_join {between : String} (one : between.toList = [sep]) {texts : List String}
    (nonempty : texts ≠ []) (each : ∀ s ∈ texts, sep ∉ s.toList) :
    piecesOf sep (join between texts).toList = texts.map String.toList := by
  induction texts with
  | nil => exact absurd rfl nonempty
  | cons s rest ih =>
      rw [List.forall_mem_cons] at each
      cases rest with
      | nil => exact piecesOf_of_not_mem each.1
      | cons t rest =>
          have parts : (join between (s :: t :: rest)).toList =
              s.toList ++ sep :: (join between (t :: rest)).toList := by
            simp [join, one]
          rw [parts, piecesOf_append, piecesOf_of_not_mem each.1,
            ih (List.cons_ne_nil t rest) each.2, List.singleton_append, ← List.map_cons]

end Pieces

theorem pieces_append_lineEnd (s t : String) :
    pieces '\n' (s ++ "\n" ++ t) = pieces '\n' s ++ pieces '\n' t := by
  have parts : (s ++ "\n" ++ t).toList = s.toList ++ '\n' :: t.toList := by simp
  rw [pieces, parts, piecesOf_append, List.map_append, pieces, pieces]

theorem pieces_of_not_mem {s : String} (absent : '\n' ∉ s.toList) : pieces '\n' s = [s] := by
  rw [pieces, piecesOf_of_not_mem absent, List.map_singleton, String.ofList_toList]

theorem subset_of_mem_pieces {s piece : String} (mem : piece ∈ pieces '\n' s) :
    piece.toList ⊆ s.toList := by
  obtain ⟨cs, hcs, rfl⟩ := List.mem_map.1 mem
  rw [String.toList_ofList]
  exact subset_of_mem_piecesOf hcs

theorem lineEnd_not_mem_of_mem_pieces {s piece : String} (mem : piece ∈ pieces '\n' s) :
    '\n' ∉ piece.toList := by
  obtain ⟨cs, hcs, rfl⟩ := List.mem_map.1 mem
  simpa using not_mem_of_mem_piecesOf hcs

theorem eq_of_pieces_singleton {s t : String} (single : pieces '\n' s = [t]) : s = t := by
  obtain ⟨piece, cut, rfl⟩ := List.map_eq_singleton_iff.1 single
  rw [← eq_of_piecesOf_singleton cut, String.ofList_toList]

theorem pieces_ne_nil (s : String) : pieces '\n' s ≠ [] := by
  rw [pieces, ne_eq, List.map_eq_nil_iff]
  exact piecesOf_ne_nil s.toList

/-! ## Starts and ends -/

theorem startsWith_iff {key s : String} : startsWith key s = true ↔ key.toList <+: s.toList := by
  rw [startsWith, List.isPrefixOf_iff_prefix]

theorem endsWith_iff {key s : String} : endsWith key s = true ↔ key.toList <:+ s.toList := by
  rw [endsWith, List.isSuffixOf_iff_suffix]

theorem head_not_mark_iff {cs : List Char} :
    (∀ c ∈ cs.head?, isMark c = false) ↔ ¬ [byteOrderMark] <+: cs := by
  cases cs with
  | nil => simp
  | cons c rest =>
      have same : [byteOrderMark] <+: c :: rest ↔ isMark c = true := by
        rw [List.cons_prefix_cons, isMark, beq_iff_eq, eq_comm]
        exact and_iff_left List.nil_prefix
      rw [same, Bool.not_eq_true]
      simp

/-- No byte-order mark ends a text iff the text neither starts nor ends with one. -/
theorem bare_isMark_iff {s : String} :
    Bare isMark s.toList ↔ startsWith "\uFEFF" s = false ∧ endsWith "\uFEFF" s = false := by
  have mark : "\uFEFF".toList = [byteOrderMark] := by decide
  have back : (∀ c ∈ s.toList.getLast?, isMark c = false) ↔ endsWith "\uFEFF" s = false := by
    rw [← Bool.not_eq_true, endsWith_iff, ← List.reverse_prefix, ← List.head?_reverse,
      head_not_mark_iff, mark, List.reverse_singleton]
  have front : (∀ c ∈ s.toList.head?, isMark c = false) ↔ startsWith "\uFEFF" s = false := by
    rw [← Bool.not_eq_true, startsWith_iff, head_not_mark_iff, mark]
  rw [Bare, front, back]

/-- A start does not reach over a character that it does not hold. -/
theorem prefix_append_cons_iff {key xs ys : List Char} {b : Char} (absent : b ∉ key) :
    key <+: xs ++ b :: ys ↔ key <+: xs := by
  refine ⟨fun start => ?_, fun start => start.trans (List.prefix_append _ _)⟩
  induction xs generalizing key with
  | nil =>
      cases key with
      | nil => exact List.nil_prefix
      | cons k ks => exact absurd (by simp [(List.cons_prefix_cons.1 start).1]) absent
  | cons x xs ih =>
      cases key with
      | nil => exact List.nil_prefix
      | cons k ks =>
          obtain ⟨same, more⟩ := List.cons_prefix_cons.1 start
          exact List.cons_prefix_cons.2
            ⟨same, ih (fun mem => absent (List.mem_cons_of_mem _ mem)) more⟩

/-- An end does not reach back over a character that it does not hold. -/
theorem suffix_append_cons_iff {key xs ys : List Char} {b : Char} (absent : b ∉ key) :
    key <:+ xs ++ b :: ys ↔ key <:+ ys := by
  have absent : b ∉ key.reverse := by rwa [List.mem_reverse]
  have parts : (xs ++ b :: ys).reverse = ys.reverse ++ b :: xs.reverse := by simp
  rw [← List.reverse_prefix, parts, prefix_append_cons_iff absent, List.reverse_prefix]

/-- A start without blanks does not reach behind the first blank. -/
theorem startsWith_append_blank {key : String} (free : ' ' ∉ key.toList) (s t : String) :
    startsWith key (s ++ " " ++ t) = startsWith key s := by
  have parts : (s ++ " " ++ t).toList = s.toList ++ ' ' :: t.toList := by simp
  rw [Bool.eq_iff_iff, startsWith_iff, startsWith_iff, parts, prefix_append_cons_iff free]

/-- A word and the blank behind it start a text iff they are its first word. -/
theorem word_prefix_iff {b : Char} {key word rest : List Char} (inKey : b ∉ key)
    (inWord : b ∉ word) : key ++ [b] <+: word ++ b :: rest ↔ key = word := by
  constructor
  · intro start
    induction key generalizing word with
    | nil =>
        cases word with
        | nil => rfl
        | cons c word => exact absurd (by simp [(List.cons_prefix_cons.1 start).1]) inWord
    | cons k ks ih =>
        cases word with
        | nil => exact absurd (by simp [(List.cons_prefix_cons.1 start).1]) inKey
        | cons c word =>
            obtain ⟨same, more⟩ := List.cons_prefix_cons.1 start
            rw [same, ih (fun mem => inKey (List.mem_cons_of_mem _ mem))
              (fun mem => inWord (List.mem_cons_of_mem _ mem)) more]
  · rintro rfl
    exact ⟨rest, by simp⟩

theorem headAndWords_start (cs : List Char) : (headAndWords cs).1 <+: cs := by
  induction cs with
  | nil => exact List.nil_prefix
  | cons c rest ih =>
      simp only [headAndWords]
      split
      · exact List.nil_prefix
      · exact List.cons_prefix_cons.2 ⟨rfl, ih⟩

/-- The first word of a text that no blank starts is a start of it. -/
theorem prefix_of_words_cons {s word : String} {rest : List String}
    (bare : Bare isBlank s.toList) (cut : words s = word :: rest) :
    word.toList <+: s.toList := by
  obtain ⟨w, ws, whole, rfl, -⟩ := List.map_eq_cons_iff.1 cut
  have started : (headAndWords s.toList).1.isEmpty = false := by
    cases chars : s.toList with
    | nil =>
        rw [chars] at whole
        cases whole
    | cons c cs => simp [headAndWords, bare.1 c (by rw [chars]; rfl)]
  simp only [wordsOf, started, Bool.false_eq_true, if_false] at whole
  obtain ⟨rfl, -⟩ := List.cons_eq_cons.1 whole
  simpa using headAndWords_start s.toList

/-- A text has one start only among texts none of which starts another. -/
theorem startsWith_of_startsWith {key other s : String} (starts : startsWith key s = true)
    (apart : startsWith key other = false) (apart' : startsWith other key = false) :
    startsWith other s = false := by
  rw [Bool.eq_false_iff, Ne, startsWith_iff] at apart apart' ⊢
  intro otherStarts
  rcases List.prefix_or_prefix_of_prefix (startsWith_iff.1 starts) otherStarts with inside | inside
  · exact apart inside
  · exact apart' inside

/-! ## Parts -/

theorem hasInfix_iff {key cs : List Char} : hasInfix key cs = true ↔ key <:+: cs := by
  induction cs with
  | nil => simp [hasInfix]
  | cons c rest ih =>
      rw [hasInfix, Bool.or_eq_true, ih, List.isPrefixOf_iff_prefix, List.infix_cons_iff]

theorem contains_iff {key s : String} : contains key s = true ↔ key.toList <:+: s.toList :=
  hasInfix_iff

/-- A key does not reach over a character that it does not hold. -/
theorem infix_append_cons_iff {key xs ys : List Char} {b : Char} (absent : b ∉ key) :
    key <:+: xs ++ b :: ys ↔ key <:+: xs ∨ key <:+: ys := by
  constructor
  · intro part
    rcases List.infix_append_iff.1 part with left | right | ⟨front, back, rfl, ending, starting⟩
    · exact .inl left
    · rcases List.infix_cons_iff.1 right with start | right
      · cases key with
        | nil => exact .inr List.nil_infix
        | cons k rest => exact absurd (by simp [(List.cons_prefix_cons.1 start).1]) absent
      · exact .inr right
    · cases back with
      | nil => exact .inl (by simpa using ending.isInfix)
      | cons k rest => exact absurd (by simp [(List.cons_prefix_cons.1 starting).1]) absent
  · rintro (left | right)
    · exact List.infix_append_of_infix_left left
    · exact List.infix_append_of_infix_right (List.infix_cons right)

/-- To show something of all texts, show it of texts without blanks and let it go
over from what stands behind a blank to the whole. -/
theorem blank_induction {motive : List Char → Prop}
    (noBlank : ∀ w, (∀ c ∈ w, isBlank c = false) → motive w)
    (atBlank : ∀ w b rest, (∀ c ∈ w, isBlank c = false) → isBlank b = true → motive rest →
      motive (w ++ b :: rest)) (cs : List Char) : motive cs := by
  suffices all : ∀ cs w, (∀ c ∈ w, isBlank c = false) → motive (w ++ cs) from
    all cs [] (by simp)
  intro cs
  induction cs with
  | nil =>
      intro w free
      rw [List.append_nil]
      exact noBlank w free
  | cons c rest ih =>
      intro w free
      cases blank : isBlank c with
      | true => exact atBlank w c rest free blank (ih [] (by simp))
      | false =>
          have longer := ih (w ++ [c]) fun d hd => by
            rcases List.mem_append.1 hd with hd | hd
            · exact free d hd
            · rw [List.mem_singleton.1 hd, blank]
          rwa [List.append_assoc, List.singleton_append] at longer

theorem infix_iff_wordsOf {key : List Char} (nonempty : key ≠ [])
    (free : ∀ c ∈ key, isBlank c = false) (cs : List Char) :
    key <:+: cs ↔ ∃ w ∈ wordsOf cs, key <:+: w := by
  induction cs using blank_induction with
  | noBlank w noBlank =>
      cases w with
      | nil => simpa [wordsOf_nil] using nonempty
      | cons c rest => simp [wordsOf_word (List.cons_ne_nil c rest) noBlank]
  | atBlank w b rest noBlank blank ih =>
      have absent : b ∉ key := fun mem => by simp [free b mem] at blank
      rw [infix_append_cons_iff absent, ih, wordsOf_append_blank blank]
      cases w with
      | nil => simp [wordsOf_nil, nonempty]
      | cons c w => simp [wordsOf_word (List.cons_ne_nil c w) noBlank]

/-- A key that is a word stands in a text iff it stands in a word of it. -/
theorem contains_iff_words {key : String} (word : IsWord key) (s : String) :
    contains key s = true ↔ ∃ w ∈ words s, contains key w = true := by
  rw [contains_iff, infix_iff_wordsOf word.toList_ne_nil word.no_blank]
  simp [words, contains_iff]

/-! ## Cutting the first occurrence -/

theorem after?_eq_some_iff {key cs rest : List Char} :
    after? key cs = some rest ↔ cs = key ++ rest := by
  induction key generalizing cs with
  | nil => rw [after?, Option.some.injEq, List.nil_append]
  | cons k ks ih =>
      cases cs with
      | nil => simp [after?]
      | cons c cs =>
          by_cases same : k = c
          · rw [after?, if_pos same, ih, same, List.cons_append, List.cons_inj_right]
          · simp [after?, same, Ne.symm same]

/-- Behind a key it makes no difference what is added behind a character that the
key does not hold. -/
theorem after?_append_cons {key : List Char} {b : Char} (absent : b ∉ key) (xs ys : List Char) :
    after? key (xs ++ b :: ys) = (after? key xs).map (· ++ b :: ys) := by
  induction key generalizing xs with
  | nil => rfl
  | cons k ks ih =>
      rw [List.mem_cons, not_or] at absent
      cases xs with
      | nil => simp [after?, Ne.symm absent.1]
      | cons x xs =>
          rw [List.cons_append, after?, after?]
          split
          · exact ih absent.2 xs
          · rfl

theorem after?_of_absent {key cs : List Char} (absent : ¬ key <:+: cs) :
    after? key cs = none := by
  rw [Option.eq_none_iff_forall_ne_some]
  intro rest found
  exact absent (after?_eq_some_iff.1 found ▸ (List.prefix_append key rest).isInfix)

theorem firstAfter_of_absent {α : Type} {key : List Char} (read : List Char → Option α)
    {cs : List Char} (absent : ¬ key <:+: cs) : firstAfter key read cs = none := by
  induction cs with
  | nil => rw [firstAfter, after?_of_absent absent, Option.bind_none]
  | cons c cs ih =>
      rw [firstAfter, after?_of_absent absent, Option.bind_none, Option.none_or,
        ih fun part => absent (List.infix_cons part)]

/-- A key that its first character tells apart is read where it first stands. -/
theorem firstAfter_of_first {α : Type} {k : Char} {ks front : List Char} (once : k ∉ ks)
    (absent : ¬ k :: ks <:+: front) {read : List Char → Option α} {rest : List Char} {a : α}
    (found : read rest = some a) :
    firstAfter (k :: ks) read (front ++ (k :: ks ++ rest)) = some a := by
  induction front with
  | nil =>
      rw [List.nil_append, List.cons_append, firstAfter, ← List.cons_append,
        after?_eq_some_iff.2 rfl, Option.bind_some, found, Option.some_or]
  | cons c front ih =>
      have passed : after? (k :: ks) (c :: (front ++ (k :: ks ++ rest))) = none := by
        rw [Option.eq_none_iff_forall_ne_some]
        intro behind here
        -- It would start in front of the place and reach over its own first character.
        obtain ⟨rfl, whole⟩ := List.cons_eq_cons.1 (after?_eq_some_iff.1 here)
        have start : ks <+: front ++ c :: (ks ++ rest) := ⟨behind, whole.symm⟩
        exact absent (List.cons_prefix_cons.2
          ⟨rfl, (prefix_append_cons_iff once).1 start⟩).isInfix
      rw [List.cons_append, firstAfter, passed, Option.bind_none, Option.none_or,
        ih fun part => absent (List.infix_cons part)]

theorem firstAfter_of_not_mem {α : Type} {key : List Char} {c : Char} (inKey : c ∈ key)
    (read : List Char → Option α) {cs : List Char} (free : c ∉ cs) :
    firstAfter key read cs = none :=
  firstAfter_of_absent read fun part => free (part.subset inKey)

section Stop

variable {key : List Char} {stop : Char} (inKey : stop ∉ key)

include inKey

theorem after?_stop {xs : List Char} (free : stop ∉ xs) (rest : List Char) :
    after? (key ++ [stop]) (xs ++ stop :: rest) = if key = xs then some rest else none := by
  split
  · rename_i same
    rw [after?_eq_some_iff, same, List.append_assoc, List.singleton_append]
  · rename_i other
    rw [Option.eq_none_iff_forall_ne_some]
    intro behind here
    have whole := after?_eq_some_iff.1 here
    rw [List.append_assoc, List.singleton_append] at whole
    exact other (eq_of_first_piece free inKey whole).1.symm

/-- A key that ends in `stop` is read behind the next `stop` if the rest of the key stands
in front of it, or later. -/
theorem firstAfter_stop {α : Type} (read : List Char → Option α) {xs : List Char}
    (free : stop ∉ xs) (rest : List Char) :
    firstAfter (key ++ [stop]) read (xs ++ stop :: rest) =
      (if key <:+ xs then read rest else none).or (firstAfter (key ++ [stop]) read rest) := by
  induction xs with
  | nil =>
      rw [List.nil_append, firstAfter, ← List.nil_append (stop :: rest),
        after?_stop inKey List.not_mem_nil]
      simp only [List.suffix_nil]
      split <;> rfl
  | cons x xs ih =>
      rw [List.cons_append, firstAfter, ← List.cons_append, after?_stop inKey free,
        ih fun mem => free (List.mem_cons_of_mem _ mem)]
      simp only [List.suffix_cons_iff]
      by_cases whole : key = x :: xs
      · have shorter : ¬ key <:+ xs := by
          rw [whole]
          exact fun part => absurd part.length_le (by simp)
        rw [if_pos whole, if_neg shorter, if_pos (.inl whole)]
        rfl
      · rw [if_neg whole, Option.bind_none, Option.none_or]
        simp only [whole, false_or]

end Stop

theorem removeFirstChars_sublist (key cs : List Char) :
    (removeFirstChars key cs).Sublist cs := by
  induction cs with
  | nil => exact .slnil
  | cons c rest ih =>
      rw [removeFirstChars]
      cases cut : after? key (c :: rest) with
      | none => exact ih.cons_cons c
      | some behind =>
          rw [after?_eq_some_iff.1 cut]
          exact (List.suffix_append key behind).sublist

theorem removeFirst_subset {key s : String} : (removeFirst key s).toList ⊆ s.toList := by
  rw [removeFirst, String.toList_ofList]
  exact (removeFirstChars_sublist key.toList s.toList).subset

theorem removeFirst_append {key : String} (nonempty : key ≠ "") (s : String) :
    removeFirst key (key ++ s) = s := by
  have chars : key.toList ≠ [] := fun empty => nonempty (String.toList_inj.1 empty)
  rw [← String.toList_inj, removeFirst, String.toList_ofList, String.toList_append]
  cases h : key.toList with
  | nil => exact absurd h chars
  | cons k ks =>
      rw [List.cons_append, removeFirstChars, ← List.cons_append, after?_eq_some_iff.2 rfl,
        Option.getD_some]

theorem removeFirstChars_singleton (k : Char) (cs : List Char) :
    removeFirstChars [k] cs = cs.erase k := by
  induction cs with
  | nil => rfl
  | cons c rest ih =>
      by_cases same : k = c
      · simp [removeFirstChars, after?, same]
      · simp [removeFirstChars, after?, same, ih, List.erase_cons_tail, Ne.symm same]

end SchemaDiagram.Text
