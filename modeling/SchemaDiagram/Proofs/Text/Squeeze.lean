/-
# SchemaDiagram.Proofs.Text.Squeeze -- runs of blanks as single spaces

`squeeze` writes one space for each run of blanks.  A text with bare ends is
squeezed to its words with single spaces between them (`squeeze_eq_join`).

What does not look at blanks does the same before and after: finding a key without
blanks (`after?_squeeze`, `firstAfter_squeeze`), reading on as long as a class with
all blanks goes on (`takeWhile_squeeze`, `dropWhile_squeeze`), cutting at a
character that is no blank (`piecesOf_squeeze`) and stripping (`strip_squeeze`).
-/
import SchemaDiagram.Proofs.Text.Search

namespace SchemaDiagram.Text

set_option autoImplicit false

def startsBlank : List Char → Bool
  | [] => false
  | c :: _ => isBlank c

/-- One space for each run of blanks. -/
def squeeze : List Char → List Char
  | [] => []
  | c :: cs =>
      if isBlank c then if startsBlank cs then squeeze cs else ' ' :: squeeze cs
      else c :: squeeze cs

section Squeeze

variable {c : Char} {cs : List Char}

theorem squeeze_cons (free : isBlank c = false) : squeeze (c :: cs) = c :: squeeze cs := by
  simp [squeeze, free]

theorem squeeze_cons_of_startsBlank (blank : isBlank c = true) (next : startsBlank cs = true) :
    squeeze (c :: cs) = squeeze cs := by
  simp [squeeze, blank, next]

theorem squeeze_cons_of_last (blank : isBlank c = true) (next : startsBlank cs = false) :
    squeeze (c :: cs) = ' ' :: squeeze cs := by
  simp [squeeze, blank, next]

theorem head?_squeeze (blank : isBlank c = true) (cs : List Char) :
    (squeeze (c :: cs)).head? = some ' ' := by
  induction cs generalizing c with
  | nil => simp [squeeze, blank, startsBlank]
  | cons d rest ih =>
      cases next : startsBlank (d :: rest) with
      | true => rw [squeeze_cons_of_startsBlank blank next, ih next]
      | false => rw [squeeze_cons_of_last blank next, List.head?_cons]

theorem squeeze_eq_nil_iff : squeeze cs = [] ↔ cs = [] := by
  cases cs with
  | nil => simp [squeeze]
  | cons c rest =>
      cases blank : isBlank c with
      | true =>
          have head := head?_squeeze blank rest
          refine iff_of_false (fun empty => ?_) (List.cons_ne_nil c rest)
          rw [empty] at head
          cases head
      | false => simp [squeeze_cons blank]

end Squeeze

/-! ## Keys -/

theorem after?_cons_of_ne {k c : Char} (ks cs : List Char) (different : k ≠ c) :
    after? (k :: ks) (c :: cs) = none := by
  rw [after?, if_neg different]

theorem after?_of_head? {k : Char} {ks cs : List Char} {c : Char} (head : cs.head? = some c)
    (different : k ≠ c) : after? (k :: ks) cs = none := by
  obtain ⟨rest, rfl⟩ := List.head?_eq_some_iff.1 head
  exact after?_cons_of_ne ks rest different

theorem after?_squeeze {key : List Char} (free : ∀ k ∈ key, isBlank k = false) (cs : List Char) :
    after? key (squeeze cs) = (after? key cs).map squeeze := by
  induction key generalizing cs with
  | nil => rfl
  | cons k ks ih =>
      rw [List.forall_mem_cons] at free
      have apart {b : Char} (blank : isBlank b = true) : k ≠ b := by
        rintro rfl
        rw [free.1] at blank
        cases blank
      cases cs with
      | nil => rfl
      | cons c cs =>
          cases blank : isBlank c with
          | true =>
              rw [after?_of_head? (head?_squeeze blank cs) (apart space_isBlank),
                after?_cons_of_ne ks cs (apart blank), Option.map_none]
          | false =>
              rw [squeeze_cons blank, after?, after?]
              split
              · exact ih free.2 cs
              · rfl

theorem firstAfter_map {α β : Type} (key : List Char) (read : List Char → Option α) (f : α → β)
    (cs : List Char) :
    firstAfter key (fun rest => (read rest).map f) cs = (firstAfter key read cs).map f := by
  induction cs with
  | nil => rw [firstAfter, firstAfter, Option.map_bind]; rfl
  | cons c cs ih => rw [firstAfter, firstAfter, ih, Option.map_or, Option.map_bind]; rfl

theorem firstAfter_squeeze {α : Type} {key : String} (word : IsWord key)
    (read : List Char → Option α) (cs : List Char) :
    firstAfter key.toList read (squeeze cs) =
      firstAfter key.toList (fun rest => read (squeeze rest)) cs := by
  have free := word.no_blank
  obtain ⟨k, ks, same⟩ := List.exists_cons_of_ne_nil word.toList_ne_nil
  rw [same] at free ⊢
  have apart {b : Char} (blank : isBlank b = true) : k ≠ b := by
    rintro rfl
    rw [free k List.mem_cons_self] at blank
    cases blank
  induction cs with
  | nil => rfl
  | cons c cs ih =>
      cases blank : isBlank c with
      | true =>
          rw [firstAfter, after?_cons_of_ne ks cs (apart blank), Option.bind_none, Option.none_or]
          cases next : startsBlank cs with
          | true => rw [squeeze_cons_of_startsBlank blank next, ih]
          | false =>
              rw [squeeze_cons_of_last blank next, firstAfter,
                after?_cons_of_ne ks _ (apart space_isBlank), Option.bind_none, Option.none_or, ih]
      | false =>
          have here := after?_squeeze free (c :: cs)
          rw [squeeze_cons blank] at here ⊢
          rw [firstAfter, firstAfter, here, ih, Option.bind_map]
          rfl

/-! ## Reading on -/

section Class

variable {p : Char → Bool}

theorem startsBlank_takeWhile (blanks : ∀ c, isBlank c = true → p c = true) (cs : List Char) :
    startsBlank (cs.takeWhile p) = startsBlank cs := by
  cases cs with
  | nil => rfl
  | cons c cs =>
      cases inside : p c with
      | true => rw [List.takeWhile_cons_of_pos inside, startsBlank, startsBlank]
      | false =>
          have free : isBlank c = false := by
            rw [Bool.eq_false_iff]
            intro blank
            rw [blanks c blank] at inside
            cases inside
          rw [List.takeWhile_cons_of_neg (by simp [inside]), startsBlank, startsBlank, free]

theorem takeWhile_squeeze (blanks : ∀ c, isBlank c = true → p c = true) (cs : List Char) :
    (squeeze cs).takeWhile p = squeeze (cs.takeWhile p) := by
  induction cs with
  | nil => rfl
  | cons c cs ih =>
      cases blank : isBlank c with
      | true =>
          have same := startsBlank_takeWhile blanks cs
          rw [List.takeWhile_cons_of_pos (blanks c blank)]
          cases next : startsBlank cs with
          | true =>
              rw [squeeze_cons_of_startsBlank blank next,
                squeeze_cons_of_startsBlank blank (same.trans next), ih]
          | false =>
              rw [squeeze_cons_of_last blank next, squeeze_cons_of_last blank (same.trans next),
                List.takeWhile_cons_of_pos (blanks ' ' space_isBlank), ih]
      | false =>
          rw [squeeze_cons blank, List.takeWhile_cons, List.takeWhile_cons]
          split
          · rw [squeeze_cons blank, ih]
          · rfl

theorem dropWhile_squeeze (blanks : ∀ c, isBlank c = true → p c = true) (cs : List Char) :
    (squeeze cs).dropWhile p = squeeze (cs.dropWhile p) := by
  induction cs with
  | nil => rfl
  | cons c cs ih =>
      cases blank : isBlank c with
      | true =>
          rw [List.dropWhile_cons_of_pos (blanks c blank)]
          cases next : startsBlank cs with
          | true => rw [squeeze_cons_of_startsBlank blank next, ih]
          | false =>
              rw [squeeze_cons_of_last blank next,
                List.dropWhile_cons_of_pos (blanks ' ' space_isBlank), ih]
      | false =>
          rw [squeeze_cons blank, List.dropWhile_cons, List.dropWhile_cons]
          split
          · exact ih
          · rw [squeeze_cons blank]

/-- A class without blanks reads on up to the first blank, before and after. -/
theorem takeWhile_squeeze_of_not_blank (free : ∀ c, isBlank c = true → p c = false)
    (cs : List Char) : (squeeze cs).takeWhile p = cs.takeWhile p := by
  induction cs with
  | nil => rfl
  | cons c cs ih =>
      cases blank : isBlank c with
      | true =>
          obtain ⟨rest, head⟩ := List.head?_eq_some_iff.1 (head?_squeeze blank cs)
          rw [head, List.takeWhile_cons_of_neg (by simp [free ' ' space_isBlank]),
            List.takeWhile_cons_of_neg (by simp [free c blank])]
      | false => rw [squeeze_cons blank, List.takeWhile_cons, List.takeWhile_cons, ih]

end Class

/-! ## Cutting and stripping -/

theorem startsBlank_head_pieces {sep : Char} (free : isBlank sep = false) {cs head : List Char}
    {rest : List (List Char)} (cut : piecesOf sep cs = head :: rest) :
    startsBlank head = startsBlank cs := by
  cases cs with
  | nil =>
      cases cut
      rfl
  | cons c cs =>
      by_cases same : c = sep
      · rw [piecesOf, if_pos same] at cut
        cases cut
        rw [startsBlank, startsBlank, same, free]
      · obtain ⟨head', rest', -, cut'⟩ := piecesOf_cons_of_ne same cs
        rw [cut'] at cut
        cases cut
        rfl

theorem piecesOf_squeeze {sep : Char} (free : isBlank sep = false) (cs : List Char) :
    piecesOf sep (squeeze cs) = (piecesOf sep cs).map squeeze := by
  have apart {b : Char} (blank : isBlank b = true) : b ≠ sep := by
    rintro rfl
    rw [free] at blank
    cases blank
  induction cs with
  | nil => rfl
  | cons c cs ih =>
      cases blank : isBlank c with
      | true =>
          obtain ⟨head, rest, cut, longer⟩ := piecesOf_cons_of_ne (apart blank) cs
          have same := startsBlank_head_pieces free cut
          rw [longer, List.map_cons]
          cases next : startsBlank cs with
          | true =>
              rw [squeeze_cons_of_startsBlank blank next, ih, cut, List.map_cons,
                squeeze_cons_of_startsBlank blank (same.trans next)]
          | false =>
              rw [squeeze_cons_of_last blank next, squeeze_cons_of_last blank (same.trans next),
                piecesOf, if_neg (apart space_isBlank), ih, cut, List.map_cons]
      | false =>
          rw [squeeze_cons blank]
          by_cases same : c = sep
          · rw [piecesOf, if_pos same, piecesOf, if_pos same, List.map_cons, ih]
            rfl
          · obtain ⟨head, rest, cut, longer⟩ := piecesOf_cons_of_ne same cs
            rw [longer, List.map_cons, squeeze_cons blank, piecesOf, if_neg same, ih, cut,
              List.map_cons]

theorem squeeze_concat {c : Char} (free : isBlank c = false) (cs : List Char) :
    squeeze (cs ++ [c]) = squeeze cs ++ [c] := by
  induction cs with
  | nil => simp [squeeze, free]
  | cons d cs ih =>
      cases blank : isBlank d with
      | true =>
          have same : startsBlank (cs ++ [c]) = startsBlank cs := by
            cases cs with
            | nil => simp [startsBlank, free]
            | cons e cs => rfl
          rw [List.cons_append]
          cases next : startsBlank cs with
          | true =>
              rw [squeeze_cons_of_startsBlank blank next,
                squeeze_cons_of_startsBlank blank (same.trans next), ih]
          | false =>
              rw [squeeze_cons_of_last blank next, squeeze_cons_of_last blank (same.trans next), ih,
                List.cons_append]
      | false => rw [List.cons_append, squeeze_cons blank, ih, squeeze_cons blank, List.cons_append]

/-- A blank behind a text is written as a space, unless the text ends in one. -/
theorem squeeze_concat_blank {b : Char} (blank : isBlank b = true) (cs : List Char) :
    squeeze (cs ++ [b]) = squeeze cs ++ [' '] ∨ squeeze (cs ++ [b]) = squeeze cs := by
  induction cs with
  | nil => exact .inl (squeeze_cons_of_last blank rfl)
  | cons d cs ih =>
      rw [List.cons_append]
      cases blank' : isBlank d with
      | false =>
          rw [squeeze_cons blank', squeeze_cons blank']
          rcases ih with same | same
          · exact .inl (by rw [same, List.cons_append])
          · exact .inr (by rw [same])
      | true =>
          cases cs with
          | nil =>
              have next : startsBlank [b] = true := blank
              rw [List.nil_append, squeeze_cons_of_startsBlank blank' next,
                squeeze_cons_of_last blank rfl, squeeze_cons_of_last blank' rfl]
              exact .inr rfl
          | cons e cs =>
              have same : startsBlank (e :: cs ++ [b]) = startsBlank (e :: cs) := rfl
              cases next : startsBlank (e :: cs) with
              | true =>
                  rw [squeeze_cons_of_startsBlank blank' (same.trans next),
                    squeeze_cons_of_startsBlank blank' next]
                  exact ih
              | false =>
                  rw [squeeze_cons_of_last blank' (same.trans next),
                    squeeze_cons_of_last blank' next]
                  rcases ih with longer | longer
                  · exact .inl (by rw [longer, List.cons_append])
                  · exact .inr (by rw [longer])

theorem dropTail_concat_of_pos {p : Char → Bool} {c : Char} (inside : p c = true)
    (cs : List Char) : dropTail p (cs ++ [c]) = dropTail p cs :=
  List.rdropWhile_concat_pos p cs c inside

theorem dropTail_concat_of_neg {p : Char → Bool} {c : Char} (outside : p c = false)
    (cs : List Char) : dropTail p (cs ++ [c]) = cs ++ [c] :=
  List.rdropWhile_concat_neg p cs c (by simp [outside])

theorem dropTail_squeeze (cs : List Char) :
    dropTail isBlank (squeeze cs) = squeeze (dropTail isBlank cs) := by
  induction cs using List.reverseRecOn with
  | nil => rfl
  | append_singleton cs c ih =>
      cases blank : isBlank c with
      | true =>
          rw [dropTail_concat_of_pos blank]
          rcases squeeze_concat_blank blank cs with same | same
          · rw [same, dropTail_concat_of_pos space_isBlank, ih]
          · rw [same, ih]
      | false =>
          rw [squeeze_concat blank, dropTail_concat_of_neg blank, dropTail_concat_of_neg blank,
            squeeze_concat blank]

theorem strip_squeeze (cs : List Char) :
    strip isBlank (squeeze cs) = squeeze (strip isBlank cs) := by
  rw [strip, dropWhile_squeeze (fun _ blank => blank), dropTail_squeeze, strip]

/-! ## Squeezed texts -/

/-- No blanks but single spaces. -/
def Squeezed : List Char → Prop
  | [] => True
  | c :: cs => (isBlank c = true → c = ' ' ∧ startsBlank cs = false) ∧ Squeezed cs

theorem squeeze_of_squeezed {cs : List Char} (single : Squeezed cs) : squeeze cs = cs := by
  induction cs with
  | nil => rfl
  | cons c cs ih =>
      obtain ⟨here, there⟩ := single
      cases blank : isBlank c with
      | true =>
          obtain ⟨rfl, next⟩ := here blank
          rw [squeeze_cons_of_last blank next, ih there]
      | false => rw [squeeze_cons blank, ih there]

theorem length_squeeze_le (cs : List Char) : (squeeze cs).length ≤ cs.length := by
  induction cs with
  | nil => exact Nat.le_refl 0
  | cons c cs ih =>
      rw [squeeze]
      split
      · split
        · exact ih.trans (Nat.le_succ _)
        · exact Nat.succ_le_succ ih
      · exact Nat.succ_le_succ ih

theorem squeezed_of_squeeze {cs : List Char} (same : squeeze cs = cs) : Squeezed cs := by
  induction cs with
  | nil => trivial
  | cons c cs ih =>
      cases blank : isBlank c with
      | true =>
          cases next : startsBlank cs with
          | true =>
              have shorter := length_squeeze_le cs
              rw [squeeze_cons_of_startsBlank blank next] at same
              rw [same, List.length_cons] at shorter
              omega
          | false =>
              rw [squeeze_cons_of_last blank next] at same
              obtain ⟨rfl, tail⟩ := List.cons_eq_cons.1 same
              exact ⟨fun _ => ⟨rfl, next⟩, ih tail⟩
      | false =>
          rw [squeeze_cons blank] at same
          exact ⟨fun blank' => by simp [blank] at blank', ih (List.cons_eq_cons.1 same).2⟩

theorem squeeze_append_of_free {w : List Char} (free : ∀ c ∈ w, isBlank c = false)
    (cs : List Char) : squeeze (w ++ cs) = w ++ squeeze cs := by
  induction w with
  | nil => rfl
  | cons c w ih =>
      rw [List.forall_mem_cons] at free
      rw [List.cons_append, squeeze_cons free.1, ih free.2, List.cons_append]

theorem wordsOf_ne_nil {c : Char} {cs : List Char} (member : c ∈ cs) (free : isBlank c = false) :
    wordsOf cs ≠ [] := by
  intro noWords
  have kept : c ∈ cs.filter fun c => !isBlank c := List.mem_filter.2 ⟨member, by simp [free]⟩
  rw [← flatten_wordsOf, noWords] at kept
  cases kept

/-- A text that ends in no blank is squeezed to its words, each with a space in
front unless the text starts with it. -/
theorem squeeze_of_last (cs : List Char) (last : ∀ c ∈ cs.getLast?, isBlank c = false) :
    squeeze cs = (if startsBlank cs then [' '] else []) ++
      (join " " ((wordsOf cs).map String.ofList)).toList := by
  induction cs using blank_induction with
  | noBlank w free =>
      have kept := squeeze_append_of_free free []
      rw [List.append_nil] at kept
      cases w with
      | nil => rfl
      | cons c w =>
          have first : startsBlank (c :: w) = false := free c List.mem_cons_self
          rw [kept, wordsOf_word (List.cons_ne_nil c w) free, first]
          simp [join, squeeze]
  | atBlank w b rest free blank ih =>
      cases rest with
      | nil =>
          have ended := last b (by simp)
          rw [blank] at ended
          cases ended
      | cons d rest =>
          have last' : ∀ c ∈ (d :: rest).getLast?, isBlank c = false := by
            intro c hc
            refine last c ?_
            rw [List.getLast?_append_of_ne_nil _ (by simp), List.getLast?_cons_cons]
            exact hc
          have worded := wordsOf_ne_nil (List.getLast_mem (List.cons_ne_nil d rest))
            (last' _ (List.getLast?_eq_some_getLast (List.cons_ne_nil d rest)))
          have behind : squeeze (b :: d :: rest) =
              ' ' :: (join " " ((wordsOf (d :: rest)).map String.ofList)).toList := by
            cases next : startsBlank (d :: rest) with
            | true => rw [squeeze_cons_of_startsBlank blank next, ih last', next]; rfl
            | false => rw [squeeze_cons_of_last blank next, ih last', next]; rfl
          rw [squeeze_append_of_free free, behind, wordsOf_append_blank blank]
          cases w with
          | nil => simp [startsBlank, blank, wordsOf_nil]
          | cons c w =>
              have first : startsBlank (c :: w ++ b :: d :: rest) = false :=
                free c List.mem_cons_self
              rw [wordsOf_word (List.cons_ne_nil c w) free, List.singleton_append, List.map_cons,
                join_cons " " (by simpa using worded), first]
              simp

theorem squeeze_eq_join {s : String} (bare : Bare isBlank s.toList) :
    squeeze s.toList = (join " " (words s)).toList := by
  have whole := squeeze_of_last s.toList bare.2
  have first : startsBlank s.toList = false := by
    cases chars : s.toList with
    | nil => rfl
    | cons c rest => exact bare.1 c (by rw [chars]; rfl)
  rwa [first, if_neg (by simp), List.nil_append] at whole

end SchemaDiagram.Text
