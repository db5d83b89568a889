/-
# SchemaDiagram.Proofs.Console.Verbatim -- texts that are shown as they are

A text between a tag that opens a style and the tag that closes it is shown as it is
exactly if it is `Verbatim`: there is no tag in it, no backslash before an opening
bracket, none at its end, where it would guard the closing tag, and no emoji is read in it
(`wrap_render_styled_iff`).

Whatever is read in the text takes characters from it, a guarded closing tag puts a
bracket at its end (`Leaves`), and emoji are beyond ASCII.  So nothing that is read is
made up for.
-/
import SchemaDiagram.Proofs.Console.Markup
import SchemaDiagram.Proofs.Console.Wrap

namespace SchemaDiagram

set_option autoImplicit false

/-! ## Emoji -/

namespace Console.Emoji

/-- The text has no character but those of ASCII. -/
def IsAscii (cs : List Char) : Prop :=
  ∀ c ∈ cs, c.toNat ≤ 0x7F

theorem isAscii_append_iff {xs ys : List Char} :
    IsAscii (xs ++ ys) ↔ IsAscii xs ∧ IsAscii ys :=
  List.forall_mem_append

theorem not_isAscii_of_ofBody? {body emoji : List Char} (known : ofBody? body = some emoji) :
    ¬ IsAscii emoji := by
  simp only [ofBody?] at known
  obtain ⟨emoji', named, rfl⟩ := Option.map_eq_some_iff.1 known
  rw [ofName?, Option.filter_eq_some_iff, isEmoji] at named
  obtain ⟨c, member, beyond⟩ := List.any_eq_true.1 named.2
  rw [decide_eq_true_eq] at beyond
  intro ascii
  exact Nat.not_le.2 beyond (ascii c (List.mem_append_left _ member))

theorem eq_of_uptoColon? {cs body behind : List Char} (cut : uptoColon? cs = some (body, behind)) :
    cs = body ++ ':' :: behind := by
  induction cs generalizing body with
  | nil => cases cut
  | cons c rest ih =>
      rw [uptoColon?] at cut
      split at cut
      · rename_i colon
        cases cut
        rw [colon, List.nil_append]
      · split at cut
        · cases cut
        · obtain ⟨⟨body', behind'⟩, later, same⟩ := Option.map_eq_some_iff.1 cut
          cases same
          rw [ih later, List.cons_append]

/-- No emoji is read where only ASCII comes of it. -/
theorem replaceFrom_of_isAscii {fuel : Nat} {cs : List Char}
    (ascii : IsAscii (replaceFrom fuel cs)) : replaceFrom fuel cs = cs := by
  induction fuel generalizing cs with
  | zero => cases cs <;> rfl
  | succ fuel ih =>
      cases cs with
      | nil => rfl
      | cons c rest =>
          rw [replaceFrom] at ascii ⊢
          split at ascii
          · rename_i colon
            rw [if_pos colon]
            split at ascii
            · rename_i body behind cut
              rw [isAscii_append_iff] at ascii
              cases known : ofBody? body with
              | some emoji =>
                  rw [known, Option.getD_some] at ascii
                  exact absurd ascii.1 (not_isAscii_of_ofBody? known)
              | none => simp [ih ascii.2, eq_of_uptoColon? cut, colon]
            · rw [ih fun d member => ascii d (List.mem_cons_of_mem _ member)]
          · rename_i other
            rw [if_neg other, ih fun d member => ascii d (List.mem_cons_of_mem _ member)]

theorem replace_of_isAscii {cs : List Char} (ascii : IsAscii (replace cs)) : replace cs = cs :=
  replaceFrom_of_isAscii ascii

end Console.Emoji

namespace Markup

open Console (isPlain)

variable {tags : List OpenTag} {cs name inside rest : List Char}

/-! ## Guards -/

theorem length_unguard_le (cs : List Char) : (unguard cs).length ≤ cs.length := by
  fun_induction unguard cs with
  | case1 rest ih =>
      rw [List.length_cons, List.length_cons, List.length_cons]
      omega
  | case2 c rest _ ih => exact Nat.succ_le_succ ih
  | case3 => exact Nat.le_refl _

/-- A guard is dropped, so without one nothing is. -/
theorem unguard_eq_self_iff : unguard cs = cs ↔ ¬ ['\\', '['] <:+: cs := by
  fun_induction unguard cs with
  | case1 rest ih =>
      have shorter := length_unguard_le rest
      have guard : ['\\', '['] <:+: '\\' :: '[' :: rest := (List.prefix_append _ rest).isInfix
      refine iff_of_false (fun same => ?_) (not_not_intro guard)
      have lengths := congrArg List.length same
      rw [List.length_cons, List.length_cons, List.length_cons] at lengths
      omega
  | case2 c rest other ih =>
      have noStart : ¬ ['\\', '['] <+: c :: rest := by
        rintro ⟨behind, whole⟩
        obtain ⟨rfl, rfl⟩ := List.cons.inj whole
        exact other behind rfl rfl
      rw [List.infix_cons_iff, not_or, and_iff_right noStart, ← ih, List.cons.injEq,
        and_iff_right rfl]
  | case3 => simp

theorem getLast?_unguard (cs : List Char) : (unguard cs).getLast? = cs.getLast? := by
  fun_induction unguard cs with
  | case1 rest ih =>
      rw [List.getLast?_cons, ih, List.getLast?_cons, List.getLast?_cons, Option.getD_some]
  | case2 c rest _ ih => rw [List.getLast?_cons, ih, List.getLast?_cons]
  | case3 => rfl

theorem unguard_subset (cs : List Char) : unguard cs ⊆ cs := by
  fun_induction unguard cs with
  | case1 rest ih =>
      exact List.Subset.trans (List.cons_subset_cons '[' ih) (List.subset_cons_self _ _)
  | case2 c rest _ ih => exact List.cons_subset_cons c ih
  | case3 => exact List.Subset.refl _

/-! ## Tags -/

/-- No tag is read anywhere in the text. -/
def NoTag (cs : List Char) : Prop :=
  ∀ rest ∈ cs.tails, tag? rest = none

instance (cs : List Char) : Decidable (NoTag cs) :=
  inferInstanceAs (Decidable (∀ rest ∈ cs.tails, tag? rest = none))

theorem noTag_cons_iff {c : Char} : NoTag (c :: cs) ↔ tag? (c :: cs) = none ∧ NoTag cs := by
  rw [NoTag, List.tails_cons, List.forall_mem_cons, NoTag]

theorem noTag_replicate_append (n : Nat) (noTag : NoTag cs) :
    NoTag (List.replicate n '\\' ++ cs) := by
  induction n with
  | zero => exact noTag
  | succ n ih =>
      rw [List.replicate_succ, List.cons_append, noTag_cons_iff]
      exact ⟨tag?_eq_none (by decide), ih⟩

theorem NoTag.of_append {front : List Char} (noTag : NoTag (front ++ cs)) : NoTag cs :=
  fun rest member => noTag rest (by
    rw [List.mem_tails] at member ⊢
    exact member.trans (List.suffix_append front cs))

theorem not_mem_of_isInside (valid : isInside inside = true) : '[' ∉ inside := by
  cases inside with
  | nil => cases valid
  | cons c cs =>
      rw [isInside, Bool.and_eq_true, List.all_eq_true] at valid
      intro member
      rcases List.mem_cons.1 member with rfl | member
      · exact absurd valid.1 (by decide)
      · exact absurd (valid.2 _ member) (by decide)

/-- A tag that begins in a text ends before the next tag begins. -/
theorem tag?_append_eq_none (nonempty : cs ≠ []) (noTag : tag? cs = none)
    (inside rest : List Char) : tag? (cs ++ tagged inside rest) = none := by
  cases found : tag? (cs ++ tagged inside rest) with
  | none => rfl
  | some cut =>
      obtain ⟨inner, behind⟩ := cut
      obtain ⟨whole, valid⟩ := tag?_eq_some_iff.1 found
      obtain ⟨c, cs, rfl⟩ := List.exists_cons_of_ne_nil nonempty
      obtain ⟨rfl, same⟩ := List.cons.inj whole
      rcases List.append_eq_append_iff.1 same with ⟨more, longer, cut⟩ | ⟨more, within, cut⟩
      · -- The bracket that opens the next tag stands in the first one.
        cases more with
        | nil => cases cut
        | cons d more =>
            obtain ⟨rfl, -⟩ := List.cons.inj cut
            exact absurd (by simp [longer]) (not_mem_of_isInside valid)
      · cases more with
        | nil => cases cut
        | cons d more =>
            obtain ⟨rfl, -⟩ := List.cons.inj cut
            have read : tag? (tagged inner more) = some (inner, more) := tag?_tagged valid
            rw [tagged, ← within, noTag] at read
            cases read

/-! ## What shows of the pieces -/

/-- What a piece shows, emoji aside. -/
def Piece.plain : Piece → List Char
  | .text cs => unguard cs
  | .tag .. => []

def plain (pieces : List Piece) : List Char :=
  pieces.flatMap Piece.plain

theorem plain_text_cons (cs : List Char) (pieces : List Piece) :
    plain (.text cs :: pieces) = unguard cs ++ plain pieces := rfl

/-- What is shown is what the pieces show, with emoji; tags decide only if it is. -/
theorem shown_eq {pieces : List Piece} {out : List Char} (shows : shown tags pieces = .ok out) :
    out = pieces.flatMap fun piece => Console.Emoji.replace piece.plain := by
  induction pieces generalizing tags out with
  | nil =>
      cases shows
      rfl
  | cons piece pieces ih =>
      cases piece with
      | text cs =>
          rw [shown] at shows
          obtain ⟨behind, later, same⟩ := bind_eq_ok_iff.1 shows
          cases same
          rw [List.flatMap_cons, ← ih later]
          rfl
      | tag name parameters =>
          rw [shown] at shows
          obtain ⟨tags', -, later⟩ := bind_eq_ok_iff.1 shows
          rw [List.flatMap_cons, ← ih later]
          rfl

/-- Where only ASCII is shown, no emoji is read. -/
theorem shown_eq_plain {pieces : List Piece} {out : List Char}
    (shows : shown tags pieces = .ok out) (ascii : Console.Emoji.IsAscii out) :
    out = plain pieces := by
  rw [shown_eq shows] at ascii ⊢
  refine List.flatMap_congr fun piece member => ?_
  refine Console.Emoji.replace_of_isAscii fun c inside => ascii c ?_
  exact List.mem_flatMap.2 ⟨piece, member, inside⟩

/-! ## A text before a closing tag -/

theorem plain_ofInside (inside : List Char) : (Piece.ofInside inside).plain = [] := by
  rw [Piece.ofInside]
  cases inside.drop (inside.takeWhile (· != '=')).length <;> rfl

theorem unguard_replicate (n : Nat) :
    unguard (List.replicate n '\\') = List.replicate n '\\' := by
  refine unguard_eq_self_iff.2 fun guard => ?_
  have bracket : '[' ∈ List.replicate n '\\' := guard.subset (by simp)
  exact absurd (List.eq_of_mem_replicate bracket) (by decide)

theorem plain_piecesFrom_nil (fuel : Nat) : plain (piecesFrom [] fuel []) = [] := by
  cases fuel <;> rfl

theorem getLast?_eq_slash_iff {c : Char} {front : List Char} (noSlash : c ≠ '\\') :
    (front ++ c :: cs).getLast? = some '\\' ↔ cs.getLast? = some '\\' := by
  rw [List.getLast?_append, List.getLast?_cons, Option.some_or]
  cases cs.getLast? <;> simp [noSlash]

/-- What may become of a text behind `before` where a closing tag follows: it is shown but
for its guards, what is shown is shorter than the text, or the closing tag is text. -/
inductive Leaves (before body out : List Char) : Prop where
  | whole (noTag : NoTag body) (noSlash : body.getLast? ≠ some '\\')
      (same : out = unguard (before.reverse ++ body))
  | shorter (fewer : out.length < before.length + body.length)
  | guarded (slash : body.getLast? = some '\\') (bracket : out.getLast? = some ']')

theorem length_plain_guardedPiece (n : Nat) (inside : List Char) :
    (guardedPiece n inside).plain.length ≤ inside.length + 2 := by
  rw [guardedPiece]
  split
  · refine (length_unguard_le _).trans ?_
    simp
  · simp [plain_ofInside]

namespace Leaves

variable {before body out behind : List Char} {c : Char} {n : Nat}

/-- Nothing but backslashes before the closing tag. -/
theorem slashes (n : Nat) (before closing : List Char) :
    Leaves before (List.replicate n '\\')
      (unguard before.reverse ++
        (List.replicate (n / 2) '\\' ++ (guardedPiece n closing).plain)) := by
  have front := length_unguard_le before.reverse
  rw [List.length_reverse] at front
  rcases Nat.eq_zero_or_pos n with rfl | positive
  · refine .whole (by decide) (by simp) ?_
    rw [guardedPiece, if_neg (by decide), plain_ofInside]
    simp
  · by_cases odd : n % 2 = 1
    · refine .guarded (by simp [List.getLast?_replicate, positive.ne']) ?_
      have last : (guardedPiece n closing).plain.getLast? = some ']' := by
        rw [guardedPiece, if_pos odd, Piece.plain, getLast?_unguard]
        simp [List.getLast?_cons]
      rw [← List.append_assoc, List.getLast?_append, last, Option.some_or]
    · refine .shorter ?_
      rw [guardedPiece, if_neg odd, plain_ofInside, List.append_nil, List.length_append,
        List.length_replicate, List.length_replicate]
      omega

/-- A character that starts no tag is kept with what stands before it. -/
theorem cons (noSlash : c ≠ '\\') (noTag : tag? (c :: body) = none)
    (leaves : Leaves (c :: (List.replicate n '\\' ++ before)) body out) :
    Leaves before (List.replicate n '\\' ++ c :: body) out := by
  cases leaves with
  | whole noTag' noSlash' same =>
      refine .whole (noTag_replicate_append n (noTag_cons_iff.2 ⟨noTag, noTag'⟩)) ?_ ?_
      · rwa [ne_eq, getLast?_eq_slash_iff noSlash]
      · rw [same]
        simp
  | shorter fewer =>
      refine .shorter ?_
      simp only [List.length_cons, List.length_append, List.length_replicate] at fewer ⊢
      omega
  | guarded slash bracket => exact .guarded ((getLast?_eq_slash_iff noSlash).2 slash) bracket

/-- A tag takes at least its brackets, be it read or not. -/
theorem tagged {inner : List Char} (leaves : Leaves [] behind out) :
    Leaves before (List.replicate n '\\' ++ tagged inner behind)
      (unguard before.reverse ++
        (List.replicate (n / 2) '\\' ++ ((guardedPiece n inner).plain ++ out))) := by
  have front := length_unguard_le before.reverse
  rw [List.length_reverse] at front
  have piece : n / 2 + (guardedPiece n inner).plain.length < n + (inner.length + 2) := by
    have within := length_plain_guardedPiece n inner
    by_cases odd : n % 2 = 1
    · omega
    · rw [guardedPiece, if_neg odd, plain_ofInside, List.length_nil]
      omega
  have fewer (within : out.length ≤ behind.length) : Leaves before
      (List.replicate n '\\' ++ Markup.tagged inner behind)
      (unguard before.reverse ++
        (List.replicate (n / 2) '\\' ++ ((guardedPiece n inner).plain ++ out))) := by
    refine .shorter ?_
    simp only [Markup.tagged, List.length_append, List.length_cons, List.length_replicate]
    omega
  cases leaves with
  | whole _ _ same =>
      refine fewer ?_
      rw [same]
      exact length_unguard_le behind
  | shorter less =>
      rw [List.length_nil, Nat.zero_add] at less
      exact fewer less.le
  | guarded slash bracket =>
      refine .guarded ?_ ?_
      · simp [Markup.tagged, List.getLast?_append, List.getLast?_cons, slash]
      · simp [List.getLast?_append, bracket]

end Leaves

/-- What is shown of a text behind which a closing tag stands, by the text alone. -/
theorem leaves_piecesFrom {closing : List Char} (valid : isInside closing = true) (fuel : Nat) :
    ∀ before body, (body ++ tagged closing []).length < fuel →
      Leaves before body (plain (piecesFrom before fuel (body ++ tagged closing []))) := by
  induction fuel with
  | zero => exact fun _ _ enough => absurd enough (Nat.not_lt_zero _)
  | succ fuel ih =>
      intro before body enough
      obtain ⟨n, others, rfl, noSlash⟩ := exists_slashes body
      cases others with
      | nil =>
          have leaves := Leaves.slashes n before closing
          rw [List.append_nil, piecesFrom_tagged valid, plain_text_cons, plain_text_cons,
            unguard_replicate]
          rw [← List.append_nil (guardedPiece n closing).plain, ← plain_piecesFrom_nil fuel]
            at leaves
          exact leaves
      | cons c rest =>
          have noSlash : c ≠ '\\' := fun same => noSlash (congrArg some same)
          rw [List.append_assoc] at enough ⊢
          rw [List.length_append, List.length_replicate] at enough
          cases found : tag? (c :: rest) with
          | none =>
              have noTag := tag?_append_eq_none (List.cons_ne_nil c rest) found closing []
              rw [List.cons_append] at enough noTag ⊢
              rw [List.length_cons] at enough
              rw [piecesFrom_cons noSlash noTag]
              exact (ih _ rest (by omega)).cons noSlash found
          | some cut =>
              obtain ⟨inner, behind⟩ := cut
              obtain ⟨same, valid'⟩ := tag?_eq_some_iff.1 found
              have longer : tagged inner behind ++ tagged closing [] =
                  tagged inner (behind ++ tagged closing []) := by
                simp [tagged]
              rw [same, longer] at enough ⊢
              have enough : (behind ++ tagged closing []).length < fuel := by
                simp only [tagged, List.length_cons, List.length_append] at enough ⊢
                omega
              rw [piecesFrom_tagged valid', plain_text_cons, plain_text_cons, unguard_replicate]
              exact (ih [] behind enough).tagged

theorem plain_guardedPiece_subset (n : Nat) :
    (guardedPiece n inside).plain ⊆ tagged inside rest := by
  rw [guardedPiece]
  split
  · refine List.Subset.trans (unguard_subset _) ?_
    simp [tagged]
  · simp [plain_ofInside]

/-- Nothing is shown that is not in the text, emoji aside. -/
theorem plain_piecesFrom_subset (fuel : Nat) :
    ∀ before cs, plain (piecesFrom before fuel cs) ⊆ before.reverse ++ cs := by
  induction fuel with
  | zero =>
      intro before cs
      rw [piecesFrom, plain_text_cons, plain, List.flatMap_nil, List.append_nil]
      exact unguard_subset _
  | succ fuel ih =>
      intro before cs
      obtain ⟨n, tail, rfl, noSlash⟩ := exists_slashes cs
      cases found : tag? tail with
      | some cut =>
          obtain ⟨inside, rest⟩ := cut
          obtain ⟨rfl, valid⟩ := tag?_eq_some_iff.1 found
          rw [piecesFrom_tagged valid, plain_text_cons, plain_text_cons, unguard_replicate]
          intro d member
          rcases List.mem_append.1 member with front | member
          · exact List.mem_append_left _ (unguard_subset _ front)
          refine List.mem_append_right _ (List.mem_append.2 ?_)
          rcases List.mem_append.1 member with slash | member
          · obtain ⟨nonzero, rfl⟩ := List.mem_replicate.1 slash
            exact .inl (List.mem_replicate.2 ⟨by omega, rfl⟩)
          rcases List.mem_append.1 member with piece | behind
          · exact .inr (plain_guardedPiece_subset n piece)
          · have there : d ∈ rest := ih [] rest behind
            exact .inr (by rw [tagged]; simp only [List.mem_cons, List.mem_append, there, or_true])
      | none =>
          rw [piecesFrom_slashes n before fuel noSlash, found]
          cases tail with
          | nil =>
              refine List.Subset.trans (List.Subset.trans ?_ (unguard_subset _))
                (show (List.replicate n '\\' ++ before).reverse ⊆ _ by simp)
              simp [plain, Piece.plain]
          | cons c tail =>
              refine List.Subset.trans (ih _ tail) ?_
              simp

/-- The pieces of a text without a tag, where a tag follows. -/
theorem piecesFrom_of_noTag (valid : isInside inside = true) (fuel : Nat) :
    ∀ before front, NoTag front → front.getLast? ≠ some '\\' →
      (front ++ tagged inside rest).length < fuel →
        ∃ less, rest.length < less ∧ piecesFrom before fuel (front ++ tagged inside rest) =
          .text (before.reverse ++ front) :: .text [] :: Piece.ofInside inside ::
            piecesFrom [] less rest := by
  induction fuel with
  | zero => exact fun _ _ _ _ enough => absurd enough (Nat.not_lt_zero _)
  | succ fuel ih =>
      intro before front noTag noSlash enough
      obtain ⟨n, others, rfl, noMore⟩ := exists_slashes front
      cases others with
      | nil =>
          have zero : n = 0 := by
            by_contra nonzero
            simp [List.getLast?_replicate, nonzero] at noSlash
          subst zero
          refine ⟨fuel, ?_, ?_⟩
          · simp only [tagged, List.length_append, List.length_cons] at enough
            omega
          · rw [List.append_nil, piecesFrom_tagged valid]
            simp [guardedPiece]
      | cons c others =>
          have noSlashHere : c ≠ '\\' := fun same => noMore (congrArg some same)
          obtain ⟨noTagHere, noTagBehind⟩ := noTag_cons_iff.1 noTag.of_append
          have longer : tag? (c :: (others ++ tagged inside rest)) = none :=
            tag?_append_eq_none (List.cons_ne_nil c others) noTagHere inside rest
          rw [List.append_assoc, List.cons_append] at enough ⊢
          rw [List.length_append, List.length_cons, List.length_replicate] at enough
          rw [ne_eq, getLast?_eq_slash_iff noSlashHere] at noSlash
          obtain ⟨less, within, same⟩ := ih (c :: (List.replicate n '\\' ++ before)) others
            noTagBehind noSlash (by omega)
          rw [piecesFrom_cons noSlashHere longer, same]
          exact ⟨less, within, by simp⟩

/-! ## Texts that are shown as they are -/

/-- A text in which nothing is read: no tag, no guard, not the start of a guard and no
emoji. -/
structure Verbatim (cs : List Char) : Prop where
  noTag : NoTag cs
  noGuard : ¬ ['\\', '['] <:+: cs
  noSlash : cs.getLast? ≠ some '\\'
  noEmoji : Console.Emoji.replace cs = cs

theorem toNat_lt_of_isMoving {c : Char} (moving : isMoving c = true) : c.toNat < 0x20 := by
  simp only [isMoving, Bool.or_eq_true, beq_iff_eq] at moving
  rcases moving with (((rfl | rfl) | rfl) | rfl) | rfl <;> decide

theorem toNat_le_of_isPlain {c : Char} (plain : isPlain c = true) : c.toNat ≤ 0x7F := by
  rw [isPlain, Bool.and_eq_true, decide_eq_true_eq, decide_eq_true_eq] at plain
  exact plain.2.le

theorem isMoving_of_isPlain {c : Char} (plain : isPlain c = true) : isMoving c = false := by
  rw [isPlain, Bool.and_eq_true, decide_eq_true_eq] at plain
  by_contra moving
  exact absurd (toNat_lt_of_isMoving (Bool.not_eq_false _ ▸ moving)) (Nat.not_lt.2 plain.1)

theorem filter_of_isPlain (plain : ∀ c ∈ cs, isPlain c = true) :
    (cs.filter fun c => !isMoving c) = cs :=
  List.filter_eq_self.2 fun c member => by simp [isMoving_of_isPlain (plain c member)]

/-- Where a plain text is wrapped into a short plain line, this is what its pieces show. -/
theorem shown_of_wrap {width : Nat} {s line shown' : String} (rendered : render s = .ok shown')
    (wrapped : Console.wrap width shown' = [line]) (source : ∀ c ∈ s.toList, isPlain c = true)
    (printable : ∀ c ∈ line.toList, isPlain c = true) (fits : line.length < width)
    (last : line.toList.getLast? ≠ some ' ') : shown [] (pieces s.toList) = .ok line.toList := by
  obtain ⟨out, shows, rfl⟩ := map_eq_ok_iff.1 rendered
  have whole := Console.untabbed_of_wrap wrapped printable fits last
  rw [String.toList_ofList] at whole
  -- What is shown may hold tabs and characters that move the cursor, which are not on the
  -- line; these are of ASCII too, so no emoji is shown, and then there are none of them.
  have ascii : Console.Emoji.IsAscii out := by
    intro c member
    cases moving : isMoving c with
    | true => exact (toNat_lt_of_isMoving moving).le.trans (by decide)
    | false =>
        by_cases tab : c = '\t'
        · exact tab ▸ (by decide)
        · have kept : c ∈ out.filter fun c => !isMoving c :=
            List.mem_filter.2 ⟨member, by rw [moving]; rfl⟩
          have plain := printable c (whole ▸ Console.mem_untabbed kept tab)
          exact toNat_le_of_isPlain plain
  have same := shown_eq_plain shows ascii
  have plain : ∀ c ∈ out, isPlain c = true := by
    intro c member
    rw [same] at member
    exact source c (plain_piecesFrom_subset _ _ _ member)
  have noTab : '\t' ∉ out := fun member => absurd (plain _ member) (by decide)
  rw [filter_of_isPlain plain, Console.untabbed_of_no_tab noTab] at whole
  rw [shows, whole]

section Styled

variable {style : String} {lead : List Char}

theorem pieces_styled (isStyle : IsStyle style) (verbatim : Verbatim lead) (rest : List Char) :
    ∃ fuel, rest.length < fuel ∧ pieces (lead ++ tagged style.toList rest) =
      .text lead :: .text [] :: .tag style.toList none :: piecesFrom [] fuel rest := by
  obtain ⟨fuel, enough, same⟩ := piecesFrom_of_noTag isStyle.inside
    ((lead ++ tagged style.toList rest).length + 1) [] lead verbatim.noTag verbatim.noSlash
    (Nat.lt_succ_self _)
  exact ⟨fuel, enough, by
    rw [pieces, same, ofInside_of_noParameters isStyle.noParameters]; rfl⟩

theorem piecesFrom_closed (isStyle : IsStyle style) (noTag : NoTag cs)
    (noSlash : cs.getLast? ≠ some '\\') {fuel : Nat}
    (enough : (cs ++ tagged ('/' :: style.toList) []).length < fuel) :
    piecesFrom [] fuel (cs ++ tagged ('/' :: style.toList) []) =
      [.text cs, .text [], .tag ('/' :: style.toList) none, .text []] := by
  obtain ⟨less, longer, same⟩ := piecesFrom_of_noTag isStyle.closing_inside fuel [] cs noTag
    noSlash enough
  obtain ⟨less, rfl⟩ := Nat.exists_eq_succ_of_ne_zero longer.ne'
  rw [same, ofInside_of_noParameters (by simp [isStyle.noParameters])]
  rfl

/-- What a style around a text leaves of it. -/
theorem shown_styled (isStyle : IsStyle style) (cs : List Char) :
    shown [] [.text lead, .text [], .tag style.toList none, .text cs, .text [],
        .tag ('/' :: style.toList) none, .text []] =
      .ok (Console.Emoji.replace (unguard lead) ++ Console.Emoji.replace (unguard cs)) := by
  have nothing : Console.Emoji.replace (unguard []) = [] := rfl
  simp only [shown, isStyle.afterTag_open, isStyle.afterTag_close, IsStyle.close_open, nothing,
    List.nil_append, List.append_nil, bind, Except.bind, pure, Except.pure]

/-- The pieces of a text in a style show it as it is only if nothing is read in it. -/
theorem shown_eq_self_iff (isStyle : IsStyle style) (verbatim : Verbatim lead) {fuel : Nat}
    (enough : (cs ++ tagged ('/' :: style.toList) []).length < fuel)
    (ascii : Console.Emoji.IsAscii (lead ++ cs)) :
    shown [] (.text lead :: .text [] :: .tag style.toList none ::
        piecesFrom [] fuel (cs ++ tagged ('/' :: style.toList) [])) = .ok (lead ++ cs) ↔
      Verbatim cs := by
  constructor
  · intro shows
    have same : cs = plain (piecesFrom [] fuel (cs ++ tagged ('/' :: style.toList) [])) := by
      have pieces := shown_eq_plain shows ascii
      rw [plain_text_cons, unguard_eq_self_iff.2 verbatim.noGuard,
        List.append_cancel_left_eq] at pieces
      exact pieces
    have leaves := leaves_piecesFrom isStyle.closing_inside fuel [] cs enough
    rw [← same] at leaves
    cases leaves with
    | whole noTag noSlash unguarded =>
        rw [List.reverse_nil, List.nil_append] at unguarded
        rw [piecesFrom_closed isStyle noTag noSlash enough, shown_styled isStyle,
          unguard_eq_self_iff.2 verbatim.noGuard, verbatim.noEmoji, ← unguarded,
          Except.ok.injEq, List.append_cancel_left_eq] at shows
        exact ⟨noTag, unguard_eq_self_iff.1 unguarded.symm, noSlash, shows⟩
    | shorter fewer =>
        rw [List.length_nil, Nat.zero_add] at fewer
        exact absurd fewer (Nat.lt_irrefl _)
    | guarded slash bracket =>
        rw [slash] at bracket
        cases bracket
  · intro bare
    rw [piecesFrom_closed isStyle bare.noTag bare.noSlash enough, shown_styled isStyle,
      unguard_eq_self_iff.2 verbatim.noGuard, unguard_eq_self_iff.2 bare.noGuard,
      verbatim.noEmoji, bare.noEmoji]

end Styled

/-- **A text in a style is shown as it is** exactly if nothing is read in it. -/
theorem wrap_render_styled_iff {width : Nat} {style lead name s : String} (isStyle : IsStyle style)
    (verbatim : Verbatim lead.toList)
    (whole : s.toList =
      lead.toList ++ tagged style.toList (name.toList ++ tagged ('/' :: style.toList) []))
    (source : ∀ c ∈ s.toList, isPlain c = true) (fits : (lead ++ name).length < width)
    (last : (lead ++ name).toList.getLast? ≠ some ' ') :
    (∃ shown, render s = .ok shown ∧ Console.wrap width shown = [lead ++ name]) ↔
      Verbatim name.toList := by
  have printable : ∀ c ∈ (lead ++ name).toList, isPlain c = true := by
    intro c member
    rw [whole] at source
    refine source c ?_
    rw [String.toList_append] at member
    rcases List.mem_append.1 member with front | back
    · exact List.mem_append_left _ front
    · simp [tagged, back]
  obtain ⟨fuel, enough, cut⟩ := pieces_styled isStyle verbatim
    (name.toList ++ tagged ('/' :: style.toList) [])
  have shows : shown [] (pieces s.toList) = .ok (lead ++ name).toList ↔
      Verbatim name.toList := by
    rw [whole, cut, String.toList_append]
    refine shown_eq_self_iff isStyle verbatim enough fun c member => ?_
    rw [← String.toList_append] at member
    exact toNat_le_of_isPlain (printable c member)
  rw [← shows]
  constructor
  · rintro ⟨text, rendered, wrapped⟩
    exact shown_of_wrap rendered wrapped source printable fits last
  · intro shown
    refine ⟨lead ++ name, ?_, Console.wrap_of_short printable fits.le⟩
    rw [render, shown, Except.map, filter_of_isPlain printable, String.ofList_toList]

end Markup

end SchemaDiagram
