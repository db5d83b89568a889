/-
# SchemaDiagram.Proofs.Console.Markup -- texts with tags that can be shown

A text with tags fails to be shown only by one of its tags.  So a text with no opening
bracket is always shown, and a text that opens a style, has a text with no opening
bracket in it and closes the style again is shown too (`showsFrom_styled`): if the
text ends in a backslash, the closing tag may become text, and nothing is closed.
-/
import SchemaDiagram.Console.Markup
import SchemaDiagram.Proofs.Data.Checked
import SchemaDiagram.Proofs.Text.Search

namespace SchemaDiagram

set_option autoImplicit false

/-! ## Styles -/

namespace Console.Style

/-- A word without a parenthesis is no color by components. -/
theorem readColor_ne_emptyComponent {word : String} (simple : '(' ∉ word.toList) :
    readColor word ≠ .emptyComponent := by
  have notComponents : insideOf? "rgb(" word.toList = Option.none := by
    rw [insideOf?]
    cases cut : Text.after? "rgb(".toList word.toList with
    | none => rfl
    | some inside =>
        have whole := Text.after?_eq_some_iff.1 cut
        rw [whole] at simple
        simp at simple
  unfold readColor
  simp only [notComponents]
  split
  · simp
  · split
    · split <;> simp
    · split <;> simp
    · rename_i impossible _ _
      cases impossible
    · simp

theorem text_of_color (color : String) : text { color := some color } = color := by
  have noAttributes : attributeNames.filterMap (attributeWord { color := some color }) = [] :=
    List.filterMap_eq_nil_iff.2 fun _ _ => rfl
  rw [text, noAttributes]
  rfl

/-- A single word in small letters that names no attribute and is none of the words
that need another. -/
structure IsPlainWord (word : String) : Prop where
  single : Text.words word = [word]
  bare : Text.stripBlanks word = word
  small : Text.lower word = word
  alone : word ∉ ["none", "on", "not", "link"]
  noAttribute : attribute? word = none
  simple : '(' ∉ word.toList

/-- Such a word stands for itself, be it a color or not. -/
theorem IsPlainWord.normalForm_eq {word : String} (plain : IsPlainWord word) :
    normalForm word = .ok word := by
  have other := plain.alone
  simp only [List.mem_cons, List.not_mem_nil, or_false, not_or] at other
  obtain ⟨notNone, notOn, notNot, notLink⟩ := other
  have read : ofWords {} [word] =
      (readColorWord word).map fun color => { color := some color } := by
    rw [ofWords.eq_def]
    simp only [plain.small, notOn, notNot, notLink, plain.noAttribute]
    cases readColorWord word <;> rfl
  have known := readColor_ne_emptyComponent plain.simple
  unfold normalForm
  simp only [plain.single, plain.bare, notNone, read]
  unfold readColorWord
  simp only [plain.small]
  cases color : readColor word with
  | color => exact congrArg Except.ok (text_of_color word)
  | none => rfl
  | emptyComponent => exact absurd color known

end Console.Style

namespace Markup

variable {tags tags' : List OpenTag} {cs body inside rest tail : List Char}

/-! ## Pieces -/

/-- A tag before the rest of a text. -/
def tagged (inside rest : List Char) : List Char :=
  '[' :: (inside ++ ']' :: rest)

/-- What can stand inside of a tag. -/
def isInside : List Char → Bool
  | c :: cs => startsTag c && cs.all fun x => x != ']' && x != '['
  | [] => false

theorem tag?_tagged (valid : isInside inside = true) :
    tag? (tagged inside rest) = some (inside, rest) := by
  cases inside with
  | nil => cases valid
  | cons c cs =>
      rw [isInside, Bool.and_eq_true, List.all_eq_true] at valid
      obtain ⟨starts, others⟩ := valid
      have body : (cs ++ ']' :: rest).takeWhile (fun x => x != ']' && x != '[') = cs := by
        rw [List.takeWhile_append_of_pos others]
        simp
      simp [tagged, tag?, starts, body]

theorem drop_takeWhile (p : Char → Bool) (cs : List Char) :
    cs.drop (cs.takeWhile p).length = cs.dropWhile p := by
  calc cs.drop (cs.takeWhile p).length
      = (cs.takeWhile p ++ cs.dropWhile p).drop (cs.takeWhile p).length := by
        rw [List.takeWhile_append_dropWhile]
    _ = cs.dropWhile p := List.drop_left

theorem tag?_eq_some_iff : tag? cs = some (inside, rest) ↔
    cs = tagged inside rest ∧ isInside inside = true := by
  constructor
  · intro found
    rw [tag?.eq_def] at found
    split at found
    · rename_i c behind
      split at found
      · rename_i starts
        dsimp only at found
        split at found
        · rename_i after cut
          cases found
          rw [drop_takeWhile] at cut
          refine ⟨?_, ?_⟩
          · rw [tagged, List.cons_append, ← cut, List.takeWhile_append_dropWhile]
          · rw [isInside, starts, Bool.true_and, List.all_eq_true]
            intro x member
            simpa using List.mem_takeWhile_imp member
        · cases found
      · cases found
    · cases found
  · rintro ⟨rfl, valid⟩
    exact tag?_tagged valid

theorem tag?_eq_none {c : Char} (other : c ≠ '[') : tag? (c :: cs) = none := by
  rw [tag?]
  exact fun _ _ same => other (List.cons.inj same).1

/-- Backslashes are read together with what stands behind them. -/
theorem piecesFrom_slashes (n : Nat) (plain : List Char) (fuel : Nat) :
    tail.head? ≠ some '\\' → piecesFrom plain (fuel + 1) (List.replicate n '\\' ++ tail) =
      match tag? tail with
      | some (inside, rest) =>
          .text plain.reverse :: .text (List.replicate (n / 2) '\\') ::
            (if n % 2 = 1 then .text ('[' :: (inside ++ [']'])) else Piece.ofInside inside) ::
              piecesFrom [] fuel rest
      | none =>
          match tail with
          | c :: rest => piecesFrom (c :: (List.replicate n '\\' ++ plain)) fuel rest
          | [] => [.text (List.replicate n '\\' ++ plain).reverse] := by
  intro noSlash
  have slashes : (List.replicate n '\\' ++ tail).takeWhile (· == '\\') =
      List.replicate n '\\' := by
    rw [List.takeWhile_append_of_pos (by simp)]
    cases tail with
    | nil => simp
    | cons c tail =>
        have other : c ≠ '\\' := fun same => noSlash (congrArg some same)
        simp [other]
  rw [piecesFrom, slashes]
  cases found : tag? tail with
  | some cut => simp [found]
  | none => cases tail <;> simp [found]

/-- The piece that is read of a tag behind `n` backslashes. -/
def guardedPiece (n : Nat) (inside : List Char) : Piece :=
  if n % 2 = 1 then .text ('[' :: (inside ++ [']'])) else Piece.ofInside inside

theorem piecesFrom_tagged (valid : isInside inside = true) (n : Nat) (before : List Char)
    (fuel : Nat) :
    piecesFrom before (fuel + 1) (List.replicate n '\\' ++ tagged inside rest) =
      .text before.reverse :: .text (List.replicate (n / 2) '\\') :: guardedPiece n inside ::
        piecesFrom [] fuel rest := by
  rw [piecesFrom_slashes n before fuel (by simp [tagged]), tag?_tagged valid]
  rfl

theorem piecesFrom_cons {c : Char} (noSlash : c ≠ '\\') (noTag : tag? (c :: rest) = none) (n : Nat)
    (before : List Char) (fuel : Nat) :
    piecesFrom before (fuel + 1) (List.replicate n '\\' ++ c :: rest) =
      piecesFrom (c :: (List.replicate n '\\' ++ before)) fuel rest := by
  rw [piecesFrom_slashes n before fuel (by simpa using noSlash), noTag]

theorem exists_slashes (body : List Char) :
    ∃ n others, body = List.replicate n '\\' ++ others ∧ others.head? ≠ some '\\' := by
  induction body with
  | nil => exact ⟨0, [], rfl, by simp⟩
  | cons c body ih =>
      by_cases slash : c = '\\'
      · obtain ⟨n, others, split, noSlash⟩ := ih
        exact ⟨n + 1, others, by rw [slash, split, List.replicate_succ, List.cons_append], noSlash⟩
      · exact ⟨0, c :: body, rfl, by simpa using slash⟩

/-! ## Texts without a bracket -/

theorem ofInside_of_noParameters (absent : '=' ∉ inside) :
    Piece.ofInside inside = .tag inside none := by
  have whole : inside.takeWhile (· != '=') = inside :=
    List.takeWhile_eq_self_iff.2 fun c member => by
      have other : c ≠ '=' := fun same => absent (same ▸ member)
      simpa using other
  simp [Piece.ofInside, whole]

/-- A name that opens a style and closes it. -/
structure IsStyle (name : String) : Prop where
  word : Console.Style.IsPlainWord name
  inside : isInside name.toList = true
  opening : name.toList.head? ≠ some '/'
  noParameters : '=' ∉ name.toList
  notBlank : name.toList.all Text.isBlank = false

namespace IsStyle

variable {name : String}

theorem closing_inside (style : IsStyle name) : isInside ('/' :: name.toList) = true := by
  have inside := style.inside
  cases letters : name.toList with
  | nil =>
      rw [letters] at inside
      cases inside
  | cons c cs =>
      rw [letters, isInside, Bool.and_eq_true] at inside
      have noBracket : c ≠ ']' ∧ c ≠ '[' :=
        ⟨fun same => by simp [same, startsTag] at inside,
          fun same => by simp [same, startsTag] at inside⟩
      simp [isInside, startsTag, noBracket]
      simpa using inside.2

theorem normalForm_eq (style : IsStyle name) : normalForm name.toList = .ok name := by
  rw [normalForm, String.ofList_toList, style.word.normalForm_eq, mapError_ok]

theorem afterTag_open (style : IsStyle name) :
    afterTag name.toList none tags = .ok ({ style := name, parameters := none } :: tags) := by
  rw [afterTag.eq_def]
  split
  · rename_i slash
    exact absurd (slash ▸ rfl) style.opening
  · rw [style.normalForm_eq]
    rfl

/-- A closing tag closes the last tag of that style. -/
theorem afterTag_close (style : IsStyle name) :
    afterTag ('/' :: name.toList) none tags = close name tags := by
  have trimmed : Text.strip Text.isBlank name.toList = name.toList := by
    simpa [Text.stripBlanks] using congrArg String.toList style.word.bare
  rw [afterTag.eq_def]
  simp only [style.notBlank, trimmed, style.normalForm_eq]
  rfl

theorem close_open (name : String) :
    close name ({ style := name, parameters := none } :: tags) = .ok tags := by
  simp [close, OpenTag.isSound]

end IsStyle

/-- The colors in which the program writes, and a letter that is none. -/
theorem isStyle_of_mem : ∀ name ∈ ["cyan", "green", "yellow", "x"], IsStyle name := by
  intro name listed
  refine { word := { single := ?_, bare := ?_, small := ?_, alone := ?_, noAttribute := ?_,
                     simple := ?_ }
           inside := ?_, opening := ?_, noParameters := ?_, notBlank := ?_ }
  all_goals revert name
  all_goals decide +kernel

end Markup

end SchemaDiagram
