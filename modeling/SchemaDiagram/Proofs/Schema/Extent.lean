/-
# SchemaDiagram.Proofs.Schema.Extent -- from which line to which a block reaches

The blocks of a list of lines can be told from positions alone.  A block reaches from
the line that opens it as far as no line closes it or opens another one of its sort
(`Reaches`), and a closing line ends what reaches to it.  A model and an enum may
overlap: content is none of a model if an enum opens above it and no line has closed
that since (`InEnum`).

The scan finds these blocks, in the order of their closing lines, with the content that
is theirs, and nothing else (`blocks_run`).  Before line `j` it has found the blocks
that end above `j`, and has those open that reach to `j` (`Stands`); each line keeps
this (`stands_step`).
-/
import SchemaDiagram.Schema.Scan

namespace SchemaDiagram

set_option autoImplicit false

/-! ## Positions -/

inductive BlockSort where
  | model
  | enum
deriving DecidableEq, Repr

/-- How a line counts that opens a block of the sort. -/
def BlockSort.opening : BlockSort → String → Line.Kind
  | .model => .modelOpen
  | .enum => .enumOpen

def kindAt? (lines : List Line) (k : Nat) : Option Line.Kind :=
  lines[k]?.map (·.kind)

/-- The text of line `k`, if it is content. -/
def contentAt? (lines : List Line) (k : Nat) : Option String :=
  (lines[k]?.filter fun line => line.kind = .content).map (·.text)

/-- Line `i` opens a block of that name, and no line between `i` and `j` closes it or
opens another one of its sort. -/
structure Reaches (sort : BlockSort) (lines : List Line) (name : String) (i j : Nat) : Prop where
  before : i < j
  opened : kindAt? lines i = some (sort.opening name)
  unclosed : ∀ k < j, i < k → kindAt? lines k ≠ some .blockClose
  alone : ∀ k < j, i < k → ∀ other, kindAt? lines k ≠ some (sort.opening other)

instance (lines : List Line) (k : Nat) :
    Decidable (∃ name, kindAt? lines k = some (.enumOpen name)) :=
  match h : kindAt? lines k with
  | some (.enumOpen name) => isTrue ⟨name, rfl⟩
  | some (.modelOpen _) | some .blockClose | some .content | none => isFalse (by simp)

/-- Above line `k` an enum opens, and no line between them closes it. -/
def InEnum (lines : List Line) (k : Nat) : Prop :=
  ∃ i < k, (∃ name, kindAt? lines i = some (.enumOpen name)) ∧
    ∀ c < k, i < c → kindAt? lines c ≠ some .blockClose

instance (lines : List Line) : DecidablePred (InEnum lines) :=
  fun k => inferInstanceAs (Decidable (∃ i < k, (∃ name, kindAt? lines i = some (.enumOpen name)) ∧
    ∀ c < k, i < c → kindAt? lines c ≠ some .blockClose))

/-- The content between the lines `i` and `j`, of the lines that count. -/
def contentBetween (lines : List Line) (counts : Nat → Prop) [DecidablePred counts] (i j : Nat) :
    List String :=
  (List.range j).filterMap fun k => if i < k ∧ counts k then contentAt? lines k else none

/-- A block that reaches to line `j`, made of its name and of what counts of its content. -/
def UnderWay {α : Type} (sort : BlockSort) (lines : List Line) (counts : Nat → Prop)
    [DecidablePred counts] (block : String → List String → α) (j : Nat) (b : α) : Prop :=
  ∃ name i, Reaches sort lines name i j ∧ b = block name (contentBetween lines counts i j)

/-- The model of that name whose lines of content are these. -/
def Model.ofContent (name : String) (texts : List String) : Model where
  name
  fields := texts.filterMap Field.ofLine?

/-- Line `j` closes the model.  Content of an enum is none of it. -/
def Model.EndsAt (lines : List Line) (j : Nat) (m : Model) : Prop :=
  kindAt? lines j = some .blockClose ∧
    UnderWay .model lines (fun k => ¬ InEnum lines k) Model.ofContent j m

/-- Line `j` closes the enum. -/
def Enumeration.EndsAt (lines : List Line) (j : Nat) (e : Enumeration) : Prop :=
  kindAt? lines j = some .blockClose ∧ UnderWay .enum lines (fun _ => True) Enumeration.mk j e

/-- The list holds what stands at any position, in order of the positions, and nothing
else. -/
def InOrder {α : Type} (stands : Nat → α → Prop) (items : List α) : Prop :=
  ∃ placed : List (Nat × α), placed.map (·.2) = items ∧
    placed.Pairwise (fun p q => p.1 < q.1) ∧ ∀ j a, (j, a) ∈ placed ↔ stands j a

theorem InOrder.concat {α : Type} {stands : Nat → α → Prop} {items : List α} {j : Nat}
    (above : InOrder (fun i a => i < j ∧ stands i a) items) {last : Option α}
    (here : ∀ a, last = some a ↔ stands j a) :
    InOrder (fun i a => i < j + 1 ∧ stands i a) (items ++ last.toList) := by
  obtain ⟨placed, rfl, ordered, exactly⟩ := above
  refine ⟨placed ++ last.toList.map (j, ·), by simp [Function.comp_def], ?_, fun i a => ?_⟩
  · rw [List.pairwise_append]
    refine ⟨ordered, by cases last <;> simp, fun p inside q added => ?_⟩
    obtain ⟨a, -, rfl⟩ := List.mem_map.1 added
    exact ((exactly p.1 p.2).1 inside).1
  · have added : (i, a) ∈ last.toList.map (j, ·) ↔ i = j ∧ stands j a := by
      rw [List.mem_map]
      constructor
      · rintro ⟨b, inside, same⟩
        obtain ⟨rfl, rfl⟩ := Prod.mk.injEq .. ▸ same
        exact ⟨rfl, (here b).1 (Option.mem_toList.1 inside)⟩
      · rintro ⟨rfl, there⟩
        exact ⟨a, Option.mem_toList.2 ((here a).2 there), rfl⟩
    rw [List.mem_append, exactly, added]
    constructor
    · rintro (⟨above, there⟩ | ⟨rfl, there⟩)
      · exact ⟨by omega, there⟩
      · exact ⟨by omega, there⟩
    · rintro ⟨before, there⟩
      rcases Nat.lt_succ_iff_lt_or_eq.1 before with above | rfl
      · exact .inl ⟨above, there⟩
      · exact .inr ⟨rfl, there⟩

/-! ## One line further -/

theorem BlockSort.opening_ne_close (sort : BlockSort) (name : String) :
    sort.opening name ≠ .blockClose := by
  cases sort <;> exact Line.Kind.noConfusion

theorem BlockSort.opening_ne_content (sort : BlockSort) (name : String) :
    sort.opening name ≠ .content := by
  cases sort <;> exact Line.Kind.noConfusion

theorem BlockSort.opening_inj {sort sort' : BlockSort} {name name' : String} :
    sort.opening name = sort'.opening name' ↔ sort = sort' ∧ name = name' := by
  cases sort <;> cases sort' <;> simp [opening]

section Step

variable {lines : List Line} {j : Nat} {line : Line} (here : lines[j]? = some line)

include here

theorem kindAt?_of_getElem? : kindAt? lines j = some line.kind := by
  rw [kindAt?, here, Option.map_some]

theorem reaches_succ_iff {sort : BlockSort} {name : String} {i : Nat} :
    Reaches sort lines name i (j + 1) ↔
      (i = j ∧ line.kind = sort.opening name) ∨
        (Reaches sort lines name i j ∧ line.kind ≠ .blockClose ∧
          ∀ other, line.kind ≠ sort.opening other) := by
  have kind := kindAt?_of_getElem? here
  constructor
  · rintro ⟨before, opened, unclosed, alone⟩
    rw [Nat.forall_lt_succ_right, kind] at unclosed alone
    rcases Nat.lt_succ_iff_lt_or_eq.1 before with above | rfl
    · exact .inr ⟨⟨above, opened, unclosed.1, alone.1⟩,
        fun closes => unclosed.2 above (congrArg some closes),
        fun other opens => alone.2 above other (congrArg some opens)⟩
    · exact .inl ⟨rfl, Option.some.inj (kind.symm.trans opened)⟩
  · rintro (⟨rfl, opens⟩ | ⟨⟨before, opened, unclosed, alone⟩, keepsOpen, keepsAlone⟩)
    · exact ⟨by omega, by rw [kind, opens], fun k below above => by omega,
        fun k below above => by omega⟩
    · refine ⟨by omega, opened, ?_, ?_⟩
      · rw [Nat.forall_lt_succ_right, kind]
        exact ⟨unclosed, fun _ closes => keepsOpen (Option.some.inj closes)⟩
      · rw [Nat.forall_lt_succ_right, kind]
        exact ⟨alone, fun _ other opens => keepsAlone other (Option.some.inj opens)⟩

theorem inEnum_succ_iff :
    InEnum lines (j + 1) ↔
      (∃ name, line.kind = .enumOpen name) ∨ (InEnum lines j ∧ line.kind ≠ .blockClose) := by
  have kind := kindAt?_of_getElem? here
  constructor
  · rintro ⟨i, before, ⟨name, opened⟩, unclosed⟩
    rw [Nat.forall_lt_succ_right, kind] at unclosed
    rcases Nat.lt_succ_iff_lt_or_eq.1 before with above | rfl
    · exact .inr ⟨⟨i, above, ⟨name, opened⟩, unclosed.1⟩,
        fun closes => unclosed.2 above (congrArg some closes)⟩
    · exact .inl ⟨name, Option.some.inj (kind.symm.trans opened)⟩
  · rintro (⟨name, opens⟩ | ⟨⟨i, before, opened, unclosed⟩, keepsOpen⟩)
    · exact ⟨j, by omega, ⟨name, by rw [kind, opens]⟩, fun c below above => by omega⟩
    · refine ⟨i, by omega, opened, ?_⟩
      rw [Nat.forall_lt_succ_right, kind]
      exact ⟨unclosed, fun _ closes => keepsOpen (Option.some.inj closes)⟩

theorem contentAt?_of_getElem? :
    contentAt? lines j = if line.kind = .content then some line.text else none := by
  rw [contentAt?, here, Option.filter_some]
  split <;> simp_all

end Step

section Content

variable {lines : List Line} {counts : Nat → Prop} [DecidablePred counts] {i j : Nat}

theorem contentBetween_succ :
    contentBetween lines counts i (j + 1) =
      contentBetween lines counts i j ++
        (if i < j ∧ counts j then contentAt? lines j else none).toList := by
  rw [contentBetween, List.range_succ, List.filterMap_append, List.filterMap_cons, contentBetween]
  cases (if i < j ∧ counts j then contentAt? lines j else none) <;> rfl

theorem contentBetween_of_le (close : j ≤ i + 1) : contentBetween lines counts i j = [] := by
  rw [contentBetween, List.filterMap_eq_nil_iff]
  intro k inside
  have above := List.mem_range.1 inside
  exact if_neg fun between => by omega

end Content

section UnderWay

variable {α : Type} {sort : BlockSort} {lines : List Line} {counts : Nat → Prop}
  [DecidablePred counts] {block : String → List String → α}

theorem not_underWay_zero (b : α) : ¬ UnderWay sort lines counts block 0 b := by
  rintro ⟨name, i, reaches, -⟩
  exact Nat.not_lt_zero i reaches.before

variable {j : Nat} {line : Line} (here : lines[j]? = some line)

include here

theorem underWay_of_opening {name : String} (opens : line.kind = sort.opening name) (b : α) :
    block name [] = b ↔ UnderWay sort lines counts block (j + 1) b := by
  constructor
  · rintro rfl
    exact ⟨name, j, (reaches_succ_iff here).2 (.inl ⟨rfl, opens⟩),
      by rw [contentBetween_of_le (Nat.le_refl _)]⟩
  · rintro ⟨named, i, reaches, rfl⟩
    rcases (reaches_succ_iff here).1 reaches with ⟨rfl, opens'⟩ | ⟨-, -, alone⟩
    · obtain ⟨-, rfl⟩ := BlockSort.opening_inj.1 (opens.symm.trans opens')
      rw [contentBetween_of_le (Nat.le_refl _)]
    · exact absurd opens (alone name)

theorem not_underWay_of_close (closes : line.kind = .blockClose) (b : α) :
    ¬ UnderWay sort lines counts block (j + 1) b := by
  rintro ⟨name, i, reaches, -⟩
  rcases (reaches_succ_iff here).1 reaches with ⟨-, opens⟩ | ⟨-, keepsOpen, -⟩
  · exact sort.opening_ne_close name (opens.symm.trans closes)
  · exact keepsOpen closes

theorem underWay_of_opening_other {sort' : BlockSort} {name : String}
    (opens : line.kind = sort'.opening name) (apart : sort' ≠ sort) (b : α) :
    UnderWay sort lines counts block j b ↔ UnderWay sort lines counts block (j + 1) b := by
  have noContent : contentAt? lines j = none := by
    rw [contentAt?_of_getElem? here, if_neg (opens ▸ sort'.opening_ne_content name)]
  have same (i : Nat) :
      contentBetween lines counts i (j + 1) = contentBetween lines counts i j := by
    rw [contentBetween_succ, noContent, ite_self, Option.toList_none, List.append_nil]
  have reaches (named : String) (i : Nat) :
      Reaches sort lines named i (j + 1) ↔ Reaches sort lines named i j := by
    rw [reaches_succ_iff here, opens]
    simp [sort'.opening_ne_close, BlockSort.opening_inj, apart]
  simp only [UnderWay, reaches, same]

theorem underWay_of_content (content : line.kind = .content) {add : α → String → α}
    (grows : ∀ name texts text, block name (texts ++ [text]) = add (block name texts) text)
    (b : α) :
    (∃ a, UnderWay sort lines counts block j a ∧ (if counts j then add a line.text else a) = b) ↔
      UnderWay sort lines counts block (j + 1) b := by
  have reaches (named : String) (i : Nat) :
      Reaches sort lines named i (j + 1) ↔ Reaches sort lines named i j := by
    rw [reaches_succ_iff here, content]
    simp [fun name => (sort.opening_ne_content name).symm]
  have longer {named : String} {i : Nat} (reached : Reaches sort lines named i j) :
      block named (contentBetween lines counts i (j + 1)) =
        if counts j then add (block named (contentBetween lines counts i j)) line.text
        else block named (contentBetween lines counts i j) := by
    rw [contentBetween_succ, contentAt?_of_getElem? here, if_pos content]
    by_cases counted : counts j
    · rw [if_pos ⟨reached.before, counted⟩, if_pos counted, Option.toList_some, grows]
    · rw [if_neg fun both => counted both.2, if_neg counted, Option.toList_none, List.append_nil]
  constructor
  · rintro ⟨_, ⟨named, i, reached, rfl⟩, rfl⟩
    exact ⟨named, i, (reaches named i).2 reached, (longer reached).symm⟩
  · rintro ⟨named, i, reached, rfl⟩
    have reached := (reaches named i).1 reached
    exact ⟨_, ⟨named, i, reached, rfl⟩, (longer reached).symm⟩

end UnderWay

/-! ## The scan -/

def Model.addLine (m : Model) (line : String) : Model :=
  { m with fields := m.fields ++ (Field.ofLine? line).toList }

def Enumeration.addValue (e : Enumeration) (value : String) : Enumeration :=
  { e with values := e.values ++ [value] }

theorem Model.ofContent_concat (name : String) (texts : List String) (text : String) :
    Model.ofContent name (texts ++ [text]) = (Model.ofContent name texts).addLine text := by
  rw [ofContent, addLine, ofContent, List.filterMap_append, List.filterMap_cons]
  cases Field.ofLine? text <;> rfl

theorem Enumeration.mk_concat (name : String) (values : List String) (value : String) :
    Enumeration.mk name (values ++ [value]) = (Enumeration.mk name values).addValue value :=
  rfl

namespace Scan

section AddContent

variable (s : Scan) (line : String)

theorem openEnum_addContent : (s.addContent line).openEnum = s.openEnum.map (·.addValue line) := by
  rw [addContent]
  split
  · rename_i e opened
    rw [opened]
    rfl
  · rename_i m noEnum opened
    rw [addField]
    split <;> simp [noEnum]
  · rename_i noEnum opened
    rw [noEnum]
    rfl

theorem openModel_addContent :
    (s.addContent line).openModel =
      if s.openEnum.isSome then s.openModel else s.openModel.map (·.addLine line) := by
  rw [addContent]
  split
  · rename_i e opened
    simp [opened]
  · rename_i m noEnum opened
    rw [addField]
    split <;> simp_all [Model.addLine]
  · rename_i noEnum opened
    simp [noEnum, opened]

theorem blocks_addContent :
    (s.addContent line).models = s.models ∧ (s.addContent line).enums = s.enums := by
  rw [addContent]
  split
  · exact ⟨rfl, rfl⟩
  · rw [addField]
    split <;> exact ⟨rfl, rfl⟩
  · exact ⟨rfl, rfl⟩

end AddContent

/-- Before line `j` the scan has found the blocks that end above, and has those open
that reach to it. -/
structure Stands (lines : List Line) (j : Nat) (s : Scan) : Prop where
  models : InOrder (fun i m => i < j ∧ m.EndsAt lines i) s.models
  enums : InOrder (fun i e => i < j ∧ e.EndsAt lines i) s.enums
  openModel : ∀ m, s.openModel = some m ↔
    UnderWay .model lines (fun k => ¬ InEnum lines k) Model.ofContent j m
  openEnum : ∀ e, s.openEnum = some e ↔ UnderWay .enum lines (fun _ => True) Enumeration.mk j e
  inEnum : s.openEnum.isSome = true ↔ InEnum lines j

theorem stands_step {lines : List Line} {j : Nat} {line : Line} (here : lines[j]? = some line)
    {s : Scan} (stands : s.Stands lines j) : (s.step line).Stands lines (j + 1) := by
  obtain ⟨models, enums, openModel, openEnum, inEnum⟩ := stands
  have kindHere := kindAt?_of_getElem? here
  have inEnum' := inEnum_succ_iff here
  -- Only a closing line ends a block.
  have goesOn (notClosing : line.kind ≠ .blockClose) :
      InOrder (fun i m => i < j + 1 ∧ m.EndsAt lines i) s.models ∧
        InOrder (fun i e => i < j + 1 ∧ e.EndsAt lines i) s.enums := by
    have noneEnds {α : Type} {P : α → Prop} (a : α) :
        none = some a ↔ kindAt? lines j = some .blockClose ∧ P a := by
      rw [kindHere]
      simp [notClosing]
    exact ⟨by simpa using models.concat noneEnds, by simpa using enums.concat noneEnds⟩
  cases kind : line.kind with
  | enumOpen name =>
      have opens : line.kind = BlockSort.enum.opening name := kind
      have still := goesOn (by simp [kind])
      rw [step, kind]
      refine ⟨still.1, still.2, fun m => ?_, fun e => ?_, ?_⟩
      · exact (openModel m).trans (underWay_of_opening_other here opens (by decide) m)
      · exact Iff.trans Option.some_inj (underWay_of_opening here opens e)
      · simp [inEnum', kind]
  | modelOpen name =>
      have opens : line.kind = BlockSort.model.opening name := kind
      have still := goesOn (by simp [kind])
      rw [step, kind]
      refine ⟨still.1, still.2, fun m => ?_, fun e => ?_, ?_⟩
      · refine Iff.trans ?_ (underWay_of_opening here opens m)
        exact Option.some_inj
      · exact (openEnum e).trans (underWay_of_opening_other here opens (by decide) e)
      · simp [inEnum', kind, inEnum]
  | blockClose =>
      rw [step, kind]
      refine ⟨models.concat fun m => ?_, enums.concat fun e => ?_, fun m => ?_, fun e => ?_, ?_⟩
      · rw [openModel, Model.EndsAt, kindHere, kind]
        simp
      · rw [openEnum, Enumeration.EndsAt, kindHere, kind]
        simp
      · simpa [close] using not_underWay_of_close here kind m
      · simpa [close] using not_underWay_of_close here kind e
      · simp [inEnum', kind, close]
  | content =>
      have still := goesOn (by simp [kind])
      obtain ⟨models', enums'⟩ := blocks_addContent s line.text
      rw [step, kind]
      dsimp only
      refine ⟨models' ▸ still.1, enums' ▸ still.2, fun m => ?_, fun e => ?_, ?_⟩
      · rw [← underWay_of_content here kind Model.ofContent_concat, openModel_addContent]
        simp only [← openModel, ← inEnum]
        cases s.openEnum <;> simp
      · rw [← underWay_of_content here kind Enumeration.mk_concat, openEnum_addContent,
          Option.map_eq_some_iff]
        simp [openEnum]
      · rw [openEnum_addContent, Option.isSome_map, inEnum, inEnum']
        simp [kind]

theorem stands_foldl {rest : List Line} :
    ∀ (above : List Line) {s : Scan}, s.Stands (above ++ rest) above.length →
      (rest.foldl step s).Stands (above ++ rest) (above ++ rest).length := by
  induction rest with
  | nil =>
      intro above s stands
      simpa using stands
  | cons line rest ih =>
      intro above s stands
      have here : (above ++ line :: rest)[above.length]? = some line := by simp
      have further := stands_step here stands
      rw [List.append_cons] at further ⊢
      exact ih _ (by simpa using further)

theorem stands_start (lines : List Line) : Stands lines 0 {} where
  models := ⟨[], rfl, .nil, by simp⟩
  enums := ⟨[], rfl, .nil, by simp⟩
  openModel m := by simp [not_underWay_zero]
  openEnum e := by simp [not_underWay_zero]
  inEnum := by simp [InEnum]

/-- **The scan finds the blocks that end at some line**, in the order of these lines,
and nothing else. -/
theorem blocks_run (lines : List Line) :
    InOrder (Model.EndsAt lines) (run lines).models ∧
      InOrder (Enumeration.EndsAt lines) (run lines).enums := by
  have stands := stands_foldl [] (stands_start lines)
  have inside {j : Nat} (closes : kindAt? lines j = some .blockClose) : j < lines.length := by
    obtain ⟨line, there, -⟩ := Option.map_eq_some_iff.1 closes
    exact (List.getElem?_eq_some_iff.1 there).1
  have models : (fun j m => j < lines.length ∧ Model.EndsAt lines j m) = Model.EndsAt lines := by
    funext j m
    exact propext (and_iff_right_of_imp fun ends => inside ends.1)
  have enums : (fun j e => j < lines.length ∧ Enumeration.EndsAt lines j e) =
      Enumeration.EndsAt lines := by
    funext j e
    exact propext (and_iff_right_of_imp fun ends => inside ends.1)
  exact ⟨models ▸ stands.models, enums ▸ stands.enums⟩

end Scan

end SchemaDiagram
