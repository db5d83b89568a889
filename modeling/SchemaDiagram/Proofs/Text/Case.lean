/-
# SchemaDiagram.Proofs.Text.Case -- lower case of a part and of the whole

Every character but the capital sigma is lower-cased by itself.  A capital sigma looks
around: it becomes `ς` if it ends a word, and else `σ` (`endsWord`).  So a text is
lower-cased part by part if each part is told what stands before it and behind it
(`lowerPart_append`).

A part of a text is lower-cased there as it is alone iff each of its capital sigmas ends
a word in both or in neither (`lowerPart_eq_iff`).  If one does not, the lower-cased part
may stand in the lower-cased text at another place only (`contains_lower_iff`).
-/
import SchemaDiagram.Proofs.Text.Search
import SchemaDiagram.Text.Case

namespace SchemaDiagram.Text

set_option autoImplicit false

/-! ## Parts of a text -/

/-- Whether a capital sigma between these texts ends a word: a cased character stands
before it and none behind it, case-ignorable ones skipped. -/
def endsWord (front back : List Char) : Bool :=
  casedAhead front.reverse && !casedAhead back

/-- What a character becomes between these texts. -/
def lowerBetween (front back : List Char) (c : Char) : List Char :=
  if c = 'Σ' then [if endsWord front back then 'ς' else 'σ'] else lowerChar c

/-- Lower-case `cs` where it stands behind `front` and before `back`. -/
def lowerPart (front back : List Char) : List Char → List Char
  | [] => []
  | c :: cs => lowerBetween front (cs ++ back) c ++ lowerPart (front ++ [c]) back cs

theorem casedAhead_cons (c : Char) (cs : List Char) :
    casedAhead (c :: cs) = if isCaseIgnorable c then casedAhead cs else isCased c := by
  rw [casedAhead, List.dropWhile_cons]
  split
  · rw [casedAhead]
  · rfl

theorem lowerFrom_eq_lowerPart (front cs : List Char) :
    lowerFrom (casedAhead front.reverse) cs = lowerPart front [] cs := by
  induction cs generalizing front with
  | nil => rfl
  | cons c cs ih =>
      have inWord : casedAhead (front ++ [c]).reverse =
          if isCaseIgnorable c then casedAhead front.reverse else isCased c := by
        rw [List.reverse_concat, casedAhead_cons]
      have rest := ih (front ++ [c])
      rw [inWord] at rest
      rw [lowerFrom, lowerPart, lowerBetween, endsWord, List.append_nil, rest]
      split <;> rfl

theorem toList_lower (s : String) : (lower s).toList = lowerPart [] [] s.toList := by
  rw [lower, String.toList_ofList]
  exact lowerFrom_eq_lowerPart [] s.toList

/-- A part is lower-cased with what stands around it in the whole text. -/
theorem lowerPart_append (front back xs ys : List Char) :
    lowerPart front back (xs ++ ys) =
      lowerPart front (ys ++ back) xs ++ lowerPart (front ++ xs) back ys := by
  induction xs generalizing front with
  | nil => rw [List.nil_append, List.append_nil, lowerPart, List.nil_append]
  | cons c xs ih =>
      rw [List.cons_append, lowerPart, lowerPart, ih, List.append_assoc xs,
        List.append_assoc front, List.singleton_append, List.append_assoc]

theorem length_lowerBetween (front back front' back' : List Char) (c : Char) :
    (lowerBetween front back c).length = (lowerBetween front' back' c).length := by
  rw [lowerBetween, lowerBetween]
  split <;> rfl

theorem length_lowerPart (front back front' back' cs : List Char) :
    (lowerPart front back cs).length = (lowerPart front' back' cs).length := by
  induction cs generalizing front front' with
  | nil => rfl
  | cons c cs ih =>
      rw [lowerPart, lowerPart, List.length_append, List.length_append, ih _ (front' ++ [c]),
        length_lowerBetween front (cs ++ back) front' (cs ++ back')]

/-- No character is lost. -/
theorem length_le_length_lowerPart (front back cs : List Char) :
    cs.length ≤ (lowerPart front back cs).length := by
  induction cs generalizing front with
  | nil => exact Nat.zero_le _
  | cons c cs ih =>
      have nonempty : 1 ≤ (lowerBetween front (cs ++ back) c).length := by
        rw [lowerBetween, lowerChar]
        split
        · exact Nat.le_refl 1
        · split
          · exact Nat.le_succ 1
          · exact Nat.le_refl 1
      have later := ih (front ++ [c])
      rw [lowerPart, List.length_append, List.length_cons]
      omega

theorem lowerBetween_eq_iff (front back front' back' : List Char) (c : Char) :
    lowerBetween front back c = lowerBetween front' back' c ↔
      (c = 'Σ' → endsWord front back = endsWord front' back') := by
  rw [lowerBetween, lowerBetween]
  by_cases sigma : c = 'Σ'
  · rw [if_pos sigma, if_pos sigma, forall_prop_of_true sigma]
    cases endsWord front back <;> cases endsWord front' back' <;> decide
  · rw [if_neg sigma, if_neg sigma]
    exact iff_of_true rfl fun same => absurd same sigma

/-- Between other texts a part is lower-cased alike iff each of its capital sigmas ends
a word in both places or in neither. -/
theorem lowerPart_eq_iff (front back front' back' cs : List Char) :
    lowerPart front back cs = lowerPart front' back' cs ↔
      ∀ xs ys, cs = xs ++ 'Σ' :: ys →
        endsWord (front ++ xs) (ys ++ back) = endsWord (front' ++ xs) (ys ++ back') := by
  induction cs generalizing front front' with
  | nil =>
      refine iff_of_true rfl fun xs ys cut => ?_
      exact absurd (congrArg List.length cut) (by simp)
  | cons c cs ih =>
      have apart : lowerPart front back (c :: cs) = lowerPart front' back' (c :: cs) ↔
          lowerBetween front (cs ++ back) c = lowerBetween front' (cs ++ back') c ∧
            lowerPart (front ++ [c]) back cs = lowerPart (front' ++ [c]) back' cs :=
        ⟨fun same => List.append_inj same (length_lowerBetween _ _ _ _ c),
          fun ⟨here, there⟩ => congrArg₂ (· ++ ·) here there⟩
      rw [apart, lowerBetween_eq_iff, ih]
      constructor
      · rintro ⟨here, there⟩ xs ys cut
        cases xs with
        | nil =>
            obtain ⟨rfl, rfl⟩ := List.cons_eq_cons.1 cut
            simpa using here rfl
        | cons d xs =>
            obtain ⟨rfl, rfl⟩ := List.cons_eq_cons.1 cut
            simpa using there xs ys rfl
      · intro all
        refine ⟨?_, fun xs ys cut => ?_⟩
        · rintro rfl
          simpa using all [] cs rfl
        · simpa using all (c :: xs) ys (by rw [cut, List.cons_append])

/-! ## Texts inside texts -/

/-- Behind `front` and before `back`, each capital sigma of `part` ends a word iff it
does where `part` stands alone. -/
def SigmasAlike (front part back : String) : Prop :=
  ∀ xs ys : String, part = xs ++ "Σ" ++ ys →
    endsWord (front ++ xs).toList (ys ++ back).toList = endsWord xs.toList ys.toList

theorem sigmasAlike_iff {front part back : String} :
    SigmasAlike front part back ↔
      lowerPart front.toList back.toList part.toList = lowerPart [] [] part.toList := by
  rw [lowerPart_eq_iff]
  constructor
  · intro alike xs ys cut
    have parts : part = String.ofList xs ++ "Σ" ++ String.ofList ys := by
      rw [← String.toList_inj]
      simpa using cut
    simpa using alike _ _ parts
  · rintro alike xs ys rfl
    simpa using alike xs.toList ys.toList (by simp)

theorem sigmasAlike_of_not_mem {part : String} (noSigma : 'Σ' ∉ part.toList)
    (front back : String) : SigmasAlike front part back := by
  rintro xs ys rfl
  exact absurd (by simp) noSigma

/-- `key` stands in the text other than behind `place` characters. -/
def StandsElsewhere (place : Nat) (key text : String) : Prop :=
  ∃ before behind, text = before ++ key ++ behind ∧ before.length ≠ place

/-- A part stands lower-cased in the lower-cased text at its own place iff its capital
sigmas are alike there; and it may stand elsewhere. -/
theorem contains_lower_iff (front part back : String) :
    contains (lower part) (lower (front ++ part ++ back)) = true ↔
      SigmasAlike front part back ∨
        StandsElsewhere (lower front).length (lower part) (lower (front ++ part ++ back)) := by
  have whole : (lower (front ++ part ++ back)).toList =
      lowerPart [] (part ++ back).toList front.toList ++
        (lowerPart front.toList back.toList part.toList ++
          lowerPart (front ++ part).toList [] back.toList) := by
    rw [toList_lower, String.append_assoc, String.toList_append, lowerPart_append,
      String.toList_append, lowerPart_append]
    simp
  have place : (lower front).length =
      (lowerPart [] (part ++ back).toList front.toList).length := by
    rw [← String.length_toList, toList_lower, length_lowerPart]
  have length : (lower part).toList.length =
      (lowerPart front.toList back.toList part.toList).length := by
    rw [toList_lower, length_lowerPart]
  rw [contains_iff]
  constructor
  · rintro ⟨before, behind, cut⟩
    by_cases here : before.length = (lower front).length
    · left
      rw [whole, List.append_assoc] at cut
      obtain ⟨-, rest⟩ := List.append_inj cut (here.trans place)
      obtain ⟨same, -⟩ := List.append_inj rest length
      rw [sigmasAlike_iff, ← same, toList_lower]
    · right
      refine ⟨String.ofList before, String.ofList behind, ?_, by simpa using here⟩
      rw [← String.toList_inj]
      simpa using cut.symm
  · rintro (alike | ⟨before, behind, cut, -⟩)
    · rw [sigmasAlike_iff, ← toList_lower] at alike
      rw [whole, alike]
      exact ⟨_, _, List.append_assoc _ _ _⟩
    · exact ⟨before.toList, behind.toList, by rw [cut]; simp⟩

end SchemaDiagram.Text
