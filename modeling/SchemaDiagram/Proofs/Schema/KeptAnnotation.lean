/-
# SchemaDiagram.Proofs.Schema.KeptAnnotation -- annotations that are printed again

A text is `Closed` if each annotation that opens in it has a closing parenthesis in
it.  Then no annotation of it reaches over its end, and a text behind it counts only
if it has no readable annotation itself (`argumentsIn_append`).

A field is printed with the attributes of its line, other words are dropped.  That
leaves the first readable annotation where it is, if annotations stand in words that
are kept, and open at the start of a word unless the word closes them
(`argumentsIn_attributes`).  A complete annotation is closed as its parentheses are
(`closed_join`).
-/
import SchemaDiagram.Proofs.Schema.AnnotationText
import SchemaDiagram.Proofs.Schema.Attribute

namespace SchemaDiagram.Field

set_option autoImplicit false

open Text RelationArgs

/-! ## Closed texts -/

/-- Each annotation that opens in the text has a closing parenthesis in it. -/
def Closed (cs : List Char) : Prop :=
  ∀ tail ∈ cs.tails, "@relation(".toList <+: tail → ')' ∈ tail

instance (cs : List Char) : Decidable (Closed cs) :=
  inferInstanceAs (Decidable (∀ tail ∈ cs.tails, "@relation(".toList <+: tail → ')' ∈ tail))

theorem Closed.of_cons {c : Char} {cs : List Char} (closed : Closed (c :: cs)) : Closed cs :=
  fun tail member => closed tail (by simp [member])

theorem upTo_append_of_mem {stop : Char} {xs : List Char} (member : stop ∈ xs) (ys : List Char) :
    upTo stop (xs ++ ys) = upTo stop xs := by
  obtain ⟨front, back, rfl, absent⟩ := List.eq_append_cons_of_mem member
  have reads : ∀ c ∈ front, (c != stop) = true := fun c inside => by
    rw [bne_iff_ne]
    rintro rfl
    exact absent inside
  simp [upTo, List.append_assoc, List.takeWhile_append_of_pos reads,
    List.dropWhile_append_of_pos reads]

theorem argumentsIn_cons (c : Char) (cs : List Char) :
    argumentsIn (c :: cs) =
      ((after? "@relation(".toList (c :: cs)).bind (upTo ')')).or (argumentsIn cs) := rfl

/-- What is added behind a closed text is read only if the text has no annotation. -/
theorem argumentsIn_append {cs : List Char} (closed : Closed cs) (ds : List Char) :
    argumentsIn (cs ++ ' ' :: ds) = (argumentsIn cs).or (argumentsIn ds) := by
  have absent : ' ' ∉ "@relation(".toList := by decide
  have unclosed : ')' ∉ "@relation(".toList := by decide
  induction cs with
  | nil =>
      have skipped : after? "@relation(".toList (' ' :: ds) = none :=
        after?_cons_of_ne _ _ (by decide)
      rw [argumentsIn, List.nil_append, firstAfter, skipped]
      rfl
  | cons c cs ih =>
      rw [List.cons_append, argumentsIn_cons, argumentsIn_cons, ih closed.of_cons,
        ← List.cons_append, after?_append_cons absent, Option.or_assoc]
      congr 1
      cases cut : after? "@relation(".toList (c :: cs) with
      | none => rfl
      | some behind =>
          have whole := after?_eq_some_iff.1 cut
          have inside := closed (c :: cs) (by simp) (whole ▸ List.prefix_append _ _)
          rw [whole, List.mem_append] at inside
          exact upTo_append_of_mem (inside.resolve_left unclosed) _

theorem argumentsIn_join_append {ts : List String} (nonempty : ts ≠ [])
    (closed : Closed (join " " ts).toList) (rest : List String) :
    argumentsIn (join " " (ts ++ rest)).toList =
      (argumentsIn (join " " ts).toList).or (argumentsIn (join " " rest).toList) := by
  cases rest with
  | nil =>
      have noArguments : argumentsIn "".toList = none := by decide
      rw [List.append_nil, join, noArguments, Option.or_none]
  | cons t rest =>
      have parts : (join " " (ts ++ t :: rest)).toList =
          (join " " ts).toList ++ ' ' :: (join " " (t :: rest)).toList := by
        simp [join_append " " nonempty (List.cons_ne_nil t rest)]
      rw [parts, argumentsIn_append closed]

theorem argumentsIn_join_cons {s : String} (closed : Closed s.toList) (rest : List String) :
    argumentsIn (join " " (s :: rest)).toList =
      (argumentsIn s.toList).or (argumentsIn (join " " rest).toList) :=
  argumentsIn_join_append (List.cons_ne_nil s []) closed rest

/-! ## Texts with arguments -/

theorem mem_of_upTo {stop : Char} {xs body : List Char} (read : upTo stop xs = some body) :
    stop ∈ xs := by
  by_contra absent
  have all : xs.dropWhile (· != stop) = [] := by
    rw [List.dropWhile_eq_nil_iff]
    intro c member
    rw [bne_iff_ne]
    rintro rfl
    exact absent member
  simp [upTo, all] at read

theorem exists_of_argumentsIn {cs arguments : List Char} (found : argumentsIn cs = some arguments) :
    ∃ front rest, cs = front ++ "@relation(".toList ++ rest ∧ upTo ')' rest = some arguments := by
  induction cs with
  | nil => cases found
  | cons c cs ih =>
      rw [argumentsIn, firstAfter, ← argumentsIn, Option.or_eq_some_iff] at found
      rcases found with here | ⟨-, later⟩
      · obtain ⟨rest, cut, read⟩ := Option.bind_eq_some_iff.1 here
        exact ⟨[], rest, after?_eq_some_iff.1 cut, read⟩
      · obtain ⟨front, rest, rfl, read⟩ := ih later
        exact ⟨c :: front, rest, rfl, read⟩

/-- If a text has readable arguments, each annotation at its start is closed. -/
theorem mem_of_argumentsIn {cs arguments rest : List Char}
    (found : argumentsIn cs = some arguments) (start : cs = "@relation(".toList ++ rest) :
    ')' ∈ rest := by
  obtain ⟨front, last, whole, read⟩ := exists_of_argumentsIn found
  have lengths := congrArg List.length (whole.symm.trans start)
  rw [List.length_append, List.length_append, List.length_append] at lengths
  have part : last <:+ rest :=
    List.suffix_of_suffix_length_le ⟨_, whole.symm⟩ ⟨_, start.symm⟩ (by omega)
  exact part.subset (mem_of_upTo read)

/-- What is added behind readable arguments is not read. -/
theorem argumentsIn_append_of_some {cs arguments : List Char}
    (found : argumentsIn cs = some arguments) (ds : List Char) :
    argumentsIn (cs ++ ds) = some arguments := by
  induction cs with
  | nil => cases found
  | cons c cs ih =>
      have whole := found
      rw [argumentsIn_cons, Option.or_eq_some_iff] at found
      rw [List.cons_append, argumentsIn_cons, Option.or_eq_some_iff]
      rcases found with here | ⟨unread, later⟩
      · obtain ⟨rest, cut, read⟩ := Option.bind_eq_some_iff.1 here
        have longer : c :: (cs ++ ds) = "@relation(".toList ++ (rest ++ ds) := by
          rw [← List.cons_append, after?_eq_some_iff.1 cut, List.append_assoc]
        left
        rw [after?_eq_some_iff.2 longer, Option.bind_some,
          upTo_append_of_mem (mem_of_upTo read), read]
      · refine .inr ⟨?_, ih later⟩
        cases cut : after? "@relation(".toList (c :: (cs ++ ds)) with
        | none => rfl
        | some behind =>
            -- The later annotation is long enough to hold all of the key.
            have longer := after?_eq_some_iff.1 cut
            obtain ⟨front, last, inside, -⟩ := exists_of_argumentsIn later
            have lengths := congrArg List.length inside
            rw [List.length_append, List.length_append] at lengths
            have start : "@relation(".toList <+: c :: cs :=
              List.prefix_of_prefix_length_le ⟨behind, longer.symm⟩
                (List.prefix_append (c :: cs) ds) (by rw [List.length_cons]; omega)
            obtain ⟨rest, parts⟩ := start
            have closes := mem_of_argumentsIn whole parts.symm
            rw [← List.cons_append, ← parts, List.append_assoc,
              List.append_cancel_left_eq] at longer
            rw [after?_eq_some_iff.2 parts.symm, Option.bind_some] at unread
            rw [Option.bind_some, ← longer, upTo_append_of_mem closes, unread]

/-! ## Texts that are closed by their parentheses -/

theorem closed_nil : Closed [] := by
  decide

theorem closed_of_tail {cs : List Char} (inside : Closed cs.tail)
    (start : "@relation(".toList <+: cs → ')' ∈ cs) : Closed cs := by
  cases cs with
  | nil => exact closed_nil
  | cons c cs =>
      intro tail member
      rcases List.mem_cons.1 (List.tails_cons c cs ▸ member) with rfl | member
      · exact start
      · exact inside tail member

/-- No annotation opens over a blank. -/
theorem closed_append {cs ds : List Char} (front : Closed cs) (back : Closed ds) :
    Closed (cs ++ ' ' :: ds) := by
  have absent : ' ' ∉ "@relation(".toList := by decide
  induction cs with
  | nil =>
      refine closed_of_tail back fun start => ?_
      exact absurd ((prefix_append_cons_iff absent).1 start) (by decide)
  | cons c cs ih =>
      refine closed_of_tail (ih front.of_cons) fun start => ?_
      have closes := front (c :: cs) (by simp) ((prefix_append_cons_iff absent).1 start)
      exact List.mem_append_left _ closes

theorem closed_append_of_tail {cs ds : List Char} (inside : Closed cs.tail) (back : Closed ds)
    (start : "@relation(".toList <+: cs → ')' ∈ cs ++ ' ' :: ds) : Closed (cs ++ ' ' :: ds) := by
  cases cs with
  | nil => exact closed_append closed_nil back
  | cons c cs =>
      exact closed_of_tail (closed_append inside back) fun opens =>
        start ((prefix_append_cons_iff (by decide)).1 opens)

theorem depth_join_cons (s : String) (rest : List String) :
    depth (join " " (s :: rest)) = depth s + depth (join " " rest) :=
  excess_join_cons (by decide) s rest

/-- An annotation without a closing parenthesis leaves one open. -/
theorem depth_pos_of_opens {s : String} (opens : "@relation(".toList <+: s.toList)
    (unclosed : ')' ∉ s.toList) : 0 < depth s := by
  obtain ⟨rest, whole⟩ := opens
  have opening : 1 ≤ s.toList.count '(' := by
    rw [← whole, List.count_append]
    have one : "@relation(".toList.count '(' = 1 := by decide
    omega
  have closing : s.toList.count ')' = 0 := List.count_eq_zero_of_not_mem unclosed
  rw [depth, count, count, closing]
  omega

/-- Words that close no more parentheses than are open before them, and all of them
with the last word, close each annotation that opens at the start of one. -/
theorem closed_join {ws : List String} (inside : ∀ w ∈ ws, Closed w.toList.tail) :
    ∀ {before : Int}, 0 ≤ before →
      (∀ front, front <+: ws → front ≠ [] → front ≠ ws → 0 ≤ before + depth (join " " front)) →
      before + depth (join " " ws) ≤ 0 → Closed (join " " ws).toList := by
  induction ws with
  | nil => exact fun _ _ _ => closed_nil
  | cons w rest ih =>
      intro before notNegative staysOpen closes
      rw [List.forall_mem_cons] at inside
      have start : "@relation(".toList <+: (join " " (w :: rest)).toList →
          ')' ∈ (join " " (w :: rest)).toList := by
        intro opens
        by_contra unclosed
        have := depth_pos_of_opens opens unclosed
        omega
      cases rest with
      | nil => exact closed_of_tail inside.1 start
      | cons v rest =>
          have parts : (join " " (w :: v :: rest)).toList =
              w.toList ++ ' ' :: (join " " (v :: rest)).toList := by
            simp [join]
          have deeper : 0 ≤ before + depth w := staysOpen [w] (by simp) (by simp) (by simp)
          rw [depth_join_cons] at closes
          have back : Closed (join " " (v :: rest)).toList := by
            refine ih inside.2 deeper (fun front part _ proper => ?_) (by omega)
            have longer := staysOpen (w :: front) (List.cons_prefix_cons.2 ⟨rfl, part⟩) (by simp)
              fun same => proper (List.cons_injective same)
            rw [depth_join_cons] at longer
            omega
          rw [parts] at start ⊢
          exact closed_append_of_tail inside.1 back fun opens =>
            start (opens.trans (List.prefix_append _ _))

/-! ## Attributes -/

/-- A word whose annotations are printed again: it is kept if an annotation opens in
it, and closes each that opens behind its start. -/
structure Keeps (w : String) : Prop where
  isAttribute : contains "@relation(" w = true → startsWith "@" w = true
  inside : Closed w.toList.tail

instance (w : String) : Decidable (Keeps w) :=
  decidable_of_iff ((contains "@relation(" w = true → startsWith "@" w = true) ∧
    Closed w.toList.tail) ⟨fun parts => ⟨parts.1, parts.2⟩, fun keeps => ⟨keeps.1, keeps.2⟩⟩

theorem closed_of_depth {w : String} (inside : Closed w.toList.tail)
    (closes : opensAnnotation w = true → depth w ≤ 0) : Closed w.toList := by
  refine closed_of_tail inside fun opens => ?_
  by_contra unclosed
  have := closes (startsWith_iff.2 opens)
  have := depth_pos_of_opens opens unclosed
  omega

theorem Opened.closed_concat {words : List String} (opened : Opened words)
    (keeps : ∀ w ∈ words, Keeps w) {w : String} (keep : Keeps w)
    (closed : depth (join " " words ++ " " ++ w) ≤ 0) :
    Closed (join " " (words ++ [w])).toList := by
  have nonempty := ne_nil_of_opens opened.opens
  have inside : ∀ v ∈ words ++ [w], Closed v.toList.tail :=
    List.forall_mem_append.2 ⟨fun v member => (keeps v member).inside,
      List.forall_mem_singleton.2 keep.inside⟩
  refine closed_join inside (Int.le_refl 0) (fun front part nonempty proper => ?_) ?_
  · rcases List.prefix_concat_iff.1 part with same | part
    · exact absurd same proper
    · have := opened.staysOpen front part nonempty
      omega
  · rw [join_concat " " nonempty]
    omega

theorem argumentsIn_of_not_contains {s : String} (absent : contains "@relation(" s = false) :
    argumentsIn s.toList = none := by
  rw [← Bool.not_eq_true, contains_iff] at absent
  exact firstAfter_of_absent _ absent

/-- The attributes of words have the first readable annotation of the words, also
behind an annotation that is under way. -/
theorem argumentsIn_attributesAfter {ws : List String} (each : ∀ w ∈ ws, IsWord w)
    (keeps : ∀ w ∈ ws, Keeps w) :
    argumentsIn (join " " (attributesAfter none ws)).toList = argumentsIn (join " " ws).toList ∧
      ∀ words, Opened words → (∀ w ∈ words, Keeps w) →
        argumentsIn (join " " (attributesAfter (some (join " " words)) ws)).toList =
          argumentsIn (join " " (words ++ ws)).toList := by
  induction ws with
  | nil =>
      refine ⟨rfl, fun words _ _ => ?_⟩
      rw [List.append_nil]
      rfl
  | cons w rest ih =>
      rw [List.forall_mem_cons] at each keeps
      obtain ⟨word, each⟩ := each
      obtain ⟨keep, keeps⟩ := keeps
      obtain ⟨idle, under⟩ := ih each keeps
      constructor
      · rw [attributesAfter]
        split
        · rename_i starts
          rw [Bool.and_eq_true, decide_eq_true_eq] at starts
          exact under [w] (opened_singleton word starts.1 starts.2) (by simpa using keep)
        · rename_i done
          rw [Bool.and_eq_true, decide_eq_true_eq, not_and, Int.not_lt] at done
          have closed := closed_of_depth keep.inside done
          rw [argumentsIn_join_cons closed rest]
          split
          · rw [argumentsIn_join_cons closed, idle]
          · rename_i dropped
            have absent : contains "@relation(" w = false := by
              rw [Bool.eq_false_iff]
              intro holds
              exact dropped (by simp [isAttribute, keep.isAttribute holds])
            rw [argumentsIn_of_not_contains absent, Option.none_or, idle]
      · intro words opened kept
        have nonempty := ne_nil_of_opens opened.opens
        have kept' : ∀ v ∈ words ++ [w], Keeps v :=
          List.forall_mem_append.2 ⟨kept, List.forall_mem_singleton.2 keep⟩
        have whole : words ++ w :: rest = words ++ [w] ++ rest := by simp
        rw [attributesAfter, whole]
        split
        · rename_i unclosed
          rw [← join_concat " " nonempty]
          exact under _ (opened.concat word unclosed) kept'
        · rename_i closes
          have closed := opened.closed_concat kept keep (Int.not_lt.1 closes)
          rw [argumentsIn_join_append (by simp) closed, ← idle, ← join_concat " " nonempty,
            argumentsIn_join_cons closed]

theorem argumentsIn_of_start {cs ds arguments : List Char} (start : cs <+: ds)
    (found : argumentsIn cs = some arguments) : argumentsIn ds = some arguments := by
  obtain ⟨rest, rfl⟩ := start
  exact argumentsIn_append_of_some found rest

/-- **The printed words have the arguments of all words**, if annotations stand in
words that are kept, at least up to the first one with arguments. -/
theorem argumentsIn_attributes {head front back : List String} (nonempty : head ≠ [])
    (closed : Closed (join " " head).toList) (each : ∀ w ∈ front, IsWord w)
    (keeps : ∀ w ∈ front, Keeps w)
    (last : back = [] ∨ argumentsIn (join " " (head ++ front)).toList ≠ none) :
    argumentsIn (join " " (head ++ attributes (front ++ back))).toList =
      argumentsIn (join " " (head ++ (front ++ back))).toList := by
  have same : argumentsIn (join " " (head ++ attributes front)).toList =
      argumentsIn (join " " (head ++ front)).toList := by
    rw [argumentsIn_join_append nonempty closed, argumentsIn_join_append nonempty closed,
      attributes, (argumentsIn_attributesAfter each keeps).1]
  rcases last with rfl | readable
  · rw [List.append_nil, same]
  · obtain ⟨arguments, found⟩ := Option.ne_none_iff_exists'.1 readable
    rw [argumentsIn_of_start (join_attributes_start head front back) (same.trans found),
      ← List.append_assoc, argumentsIn_of_start (join_start " " (head ++ front) back) found]

end SchemaDiagram.Field
