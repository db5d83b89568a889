/-
# SchemaDiagram.Proofs.Schema.Rederivation -- a field that is read, derived anew

A line that mentions a relation anywhere declares a relation field.  An edit does not
see the line: it derives the flags of a field from its type and its attributes.  Both
agree exactly if the line is `Recalled` by the field, that is, if a mention stands in a
word that is kept as an attribute, or the type refers to a model anyway
(`isDerived_iff_of_ofLine?`).

So a model that was read keeps the flags of a field under an update that leaves type
and attributes alone exactly if the line of the field is recalled
(`updateFieldBy_keeps_iff`).  A comment may mention a relation, and is not recalled
(`update_drops_commented_relation`).
-/
import SchemaDiagram.Proofs.Schema.Editing

namespace SchemaDiagram

set_option autoImplicit false

open Text

namespace Field

/-! ## Attributes that mention a relation -/

/-- What opens an annotation starts like an attribute, and mentions a relation. -/
theorem mention_of_opensAnnotation {word : String} (opens : opensAnnotation word = true) :
    startsWith "@" word = true ∧ contains "@relation" word = true := by
  have opens := startsWith_iff.1 opens
  rw [startsWith_iff, contains_iff]
  exact ⟨(by decide : "@".toList <+: "@relation(".toList).trans opens,
    ((by decide : "@relation".toList <+: "@relation(".toList).trans opens).isInfix⟩

theorem exists_mention_of_opens {ws : List String} (each : ∀ w ∈ ws, IsWord w)
    (opens : opensAnnotation (join " " ws) = true) :
    ∃ w ∈ words (join " " ws), startsWith "@" w = true ∧ contains "@relation" w = true := by
  rw [words_join_of_forall each]
  obtain ⟨w, rest, rfl⟩ := List.exists_cons_of_ne_nil (ne_nil_of_opens opens)
  exact ⟨w, List.mem_cons_self, mention_of_opensAnnotation (opensAnnotation_first opens)⟩

theorem Complete.exists_mention {m : String} (complete : Complete m)
    (mentions : contains "@relation" m = true) :
    ∃ w ∈ words m, startsWith "@" w = true ∧ contains "@relation" w = true := by
  cases complete with
  | optional => exact absurd mentions (by decide)
  | plain isWord starts _ => exact ⟨m, by simp [words_of_isWord isWord], starts, mentions⟩
  | enclosed each opens _ _ => exact exists_mention_of_opens each opens

/-- An attribute mentions a relation only if one of its words does that starts like an
attribute. -/
theorem Formed.exists_mention {ms : List String} (formed : Formed ms) :
    ∀ m ∈ ms, contains "@relation" m = true →
      ∃ w ∈ words m, startsWith "@" w = true ∧ contains "@relation" w = true := by
  induction formed with
  | nil => simp
  | pending opened =>
      rw [List.forall_mem_singleton]
      exact fun _ => exists_mention_of_opens opened.each opened.opens
  | cons complete _ ih => exact List.forall_mem_cons.2 ⟨complete.exists_mention, ih⟩

/-- The attributes among words mention a relation iff a word does that starts like one. -/
theorem any_attributes_iff {ws : List String} (each : ∀ w ∈ ws, IsWord w) :
    (attributes ws).any (contains "@relation") = true ↔
      ∃ w ∈ ws, startsWith "@" w = true ∧ contains "@relation" w = true := by
  rw [List.any_eq_true]
  constructor
  · rintro ⟨m, member, mentions⟩
    obtain ⟨w, inside, found⟩ := (formed_attributes each).exists_mention m member mentions
    exact ⟨w, (sublist_attributes each).subset (List.mem_flatMap.2 ⟨m, member, inside⟩), found⟩
  · rintro ⟨w, member, starts, mentions⟩
    obtain ⟨m, kept, inside⟩ := List.mem_flatMap.1 (mem_attributes each member starts)
    exact ⟨m, kept, (contains_iff_words (by decide) m).2 ⟨w, inside, mentions⟩⟩

/-! ## Lines and the fields that they declare -/

/-- What the line mentions is seen in the field: in a word behind the type that is kept
as an attribute, or it makes no difference as the type refers to a model. -/
def Recalled (line : String) (f : Field) : Prop :=
  contains "@relation" line = true →
    (∃ w ∈ (words line).drop 2, startsWith "@" w = true ∧ contains "@relation" w = true) ∨
      isModelType f.type = true

instance (line : String) (f : Field) : Decidable (Recalled line f) :=
  inferInstanceAs (Decidable (_ → _ ∨ _))

theorem ofParts_inj_iff {name type : String} {modifiers : List String} {one other : Bool} :
    ofParts name type modifiers one = ofParts name type modifiers other ↔ one = other := by
  refine ⟨fun same => ?_, fun same => same ▸ rfl⟩
  exact (congrArg Field.isRelation same : _)

/-- The field of a line is derived iff it recalls what the line mentions. -/
theorem isDerived_iff_of_ofLine? {line : String} {f : Field} (read : ofLine? line = some f) :
    f.IsDerived ↔ Recalled line f := by
  obtain ⟨name, type, rest, cut, rfl⟩ := ofLine?_eq_some_iff.1 read
  have each : ∀ w ∈ rest, IsWord w := fun w member =>
    isWord_of_mem_words (s := line) (by simp [cut, member])
  have inLine : (attributes rest).any (contains "@relation") = true →
      contains "@relation" line = true := by
    rw [any_attributes_iff each, contains_iff_words (by decide), cut]
    rintro ⟨w, member, -, mentions⟩
    exact ⟨w, by simp [member], mentions⟩
  have behind : (words line).drop 2 = rest := by rw [cut]; rfl
  rw [Recalled, behind, ← any_attributes_iff each]
  refine ofParts_inj_iff.trans ?_
  change _ ↔ (_ → _ ∨ isModelType type = true)
  rw [Bool.eq_iff_iff, Bool.or_eq_true, Bool.or_eq_true]
  constructor
  · intro same mentions
    exact same.1 (.inl mentions)
  · intro recalled
    exact ⟨fun read => read.elim recalled .inr, fun derived => derived.imp_left inLine⟩

/-- A field that is derived anew under some name has the flags that it had iff it was
derived. -/
theorem flags_derived_iff {f : Field} (name : String) :
    ((derived name f.type f.modifiers).isRelation = f.isRelation ∧
      (derived name f.type f.modifiers).relationTo = f.relationTo) ↔ f.IsDerived := by
  constructor
  · rintro ⟨flag, target⟩
    change f = ⟨f.name, f.type, f.modifiers, (derived name f.type f.modifiers).isRelation,
      (derived name f.type f.modifiers).relationTo⟩
    rw [flag, target]
  · intro same
    exact ⟨(congrArg Field.isRelation same).symm, (congrArg Field.relationTo same).symm⟩

end Field

/-! ## Updates -/

/-- The changes as the members of an object. -/
def FieldChanges.members (c : FieldChanges) : Members :=
  (c.name.toList.map fun s => (.text "name", .text s)) ++
    (c.type.toList.map fun s => (.text "type", .text s)) ++
      c.modifiers.toList.map fun texts => (.text "modifiers", .ofTexts texts)

namespace Model

variable {m : Model}

/-- An update by members that are texts is an update by texts. -/
theorem updateFieldBy_members (index : Int) (c : FieldChanges) :
    m.updateFieldBy index c.members = m.updateField index c := by
  have free : takenKey? c.members = none := by
    obtain ⟨_ | _, _ | _, _ | _⟩ := c <;> rfl
  have known : (Members.textKeys c.members).filter (fun key => !changeKeys.contains key) = [] := by
    obtain ⟨_ | _, _ | _, _ | _⟩ := c <;> rfl
  have drafted (f : Field) : ({
      name := (Members.get? "name" c.members).getD (.text f.name)
      type := (Members.get? "type" c.members).getD (.text f.type)
      modifiers := (Members.get? "modifiers" c.members).getD (.ofTexts f.modifiers) } : Draft) =
        .ofTexts (c.name.getD f.name) (c.type.getD f.type) (c.modifiers.getD f.modifiers) := by
    obtain ⟨_ | _, _ | _, _ | _⟩ := c <;> rfl
  unfold updateFieldBy
  simp only [free, known, drafted, Draft.field_ofTexts]
  rfl

/-- An update that changes nothing gives the model again iff the field is derived. -/
theorem updateField_nothing_iff {i : Fin m.fields.length} :
    m.updateField i {} = .ok m ↔ (m.fields.get i).IsDerived := by
  rw [updateField_eq_ok_iff]
  constructor
  · rintro ⟨j, same, unchanged⟩
    obtain rfl : i = j := Fin.ext (by omega)
    have here := congrArg (fun fields => fields[(i : Nat)]?) (congrArg Model.fields unchanged)
    rw [List.getElem?_set_self i.isLt, List.getElem?_eq_getElem i.isLt, Option.some.injEq] at here
    exact here
  · intro derived
    refine ⟨i, rfl, ?_⟩
    have unchanged : FieldChanges.applyTo {} (m.fields.get i) = m.fields.get i := derived.symm
    rw [unchanged, List.get_eq_getElem, List.set_getElem_self]

end Model

/-! ## Models that are read -/

namespace Schema

/-- **A field that is read is derived exactly if it recalls what its line mentions.**  In
a model that is read, exactly the fields that recall their line are kept by an update
without changes, and keep their flags under another name. -/
theorem updateFieldBy_keeps_iff :
    (∀ (line : String) (f : Field), Field.ofLine? line = some f →
      (Field.derived f.name f.type f.modifiers = f ↔ Field.Recalled line f)) ∧
    ∀ (text : String) (resolveBackFields : Bool),
      ∀ m ∈ (ofText text resolveBackFields).models, ∀ i : Fin m.fields.length,
        let f := m.fields.get i
        ∃ line, (∃ l ∈ linesOf text, l.kind = .content ∧ l.text = line) ∧
          Field.ofLine? line = some f ∧
          (m.updateFieldBy i [] = .ok m ↔ Field.Recalled line f) ∧
          ∀ name : String, ∃ g : Field,
            m.updateFieldBy i [(.text "name", .text name)] =
              .ok { m with fields := m.fields.set i g } ∧
            g.name = name ∧ g.type = f.type ∧ g.modifiers = f.modifiers ∧
            (g.isRelation = f.isRelation ∧ g.relationTo = f.relationTo ↔
              Field.Recalled line f) := by
  refine ⟨fun line f read => eq_comm.trans (Field.isDerived_iff_of_ofLine? read), ?_⟩
  intro text resolveBackFields m member i f
  obtain ⟨line, inText, read⟩ := exists_line_of_mem_models member f (List.get_mem _ i)
  have derived := Field.isDerived_iff_of_ofLine? read
  have unchanged := m.updateFieldBy_members i {}
  refine ⟨line, inText, read, ?_, fun name => ?_⟩
  · rw [← derived, ← Model.updateField_nothing_iff, ← unchanged]
    rfl
  · have renamed := m.updateFieldBy_members i { name := some name }
    refine ⟨.derived name f.type f.modifiers, ?_, rfl, rfl, rfl, ?_⟩
    · exact renamed.trans (Model.updateField_eq_ok_iff.2 ⟨i, rfl, rfl⟩)
    · exact (Field.flags_derived_iff name).trans derived

/-- An annotation, a type that refers to a model in front of a comment that mentions a
relation, and no mention at all. -/
theorem updateFieldBy_keeps_recalled :
    let text := "model A \x7b\n  b Int @relation(x)\n  c C //@relation\n  d Int\n\x7d"
    let m : Model := ⟨"A", [⟨"b", "Int", ["@relation(x)"], true, some "Int"⟩,
      ⟨"c", "C", [], true, some "C"⟩, ⟨"d", "Int", [], false, none⟩]⟩
    m ∈ (ofText text false).models ∧ ∀ i : Fin m.fields.length, m.updateFieldBy i [] = .ok m := by
  intro text m
  have member : m ∈ (ofText text false).models := by decide +kernel
  refine ⟨member, fun i => ?_⟩
  have derived : ∀ f ∈ m.fields, f.IsDerived := by decide +kernel
  obtain ⟨line, -, read, kept, -⟩ := updateFieldBy_keeps_iff.2 text false m member i
  exact kept.2 ((updateFieldBy_keeps_iff.1 line _ read).1 (derived _ (List.get_mem _ i)).symm)

/-- A comment makes a field a relation field, and an update without changes undoes it. -/
theorem update_drops_commented_relation :
    let f : Field := ⟨"x", "Int", [], true, some "Int"⟩
    Field.ofLine? "x Int //@relation" = some f ∧
      ¬ Field.Recalled "x Int //@relation" f ∧
      Field.derived f.name f.type f.modifiers ≠ f ∧
      (ofText "model A \x7b\n  x Int //@relation\n\x7d" false).models = [⟨"A", [f]⟩] ∧
      (Model.updateFieldBy ⟨"A", [f]⟩ 0 []).toOption =
        some ⟨"A", [⟨"x", "Int", [], false, none⟩]⟩ := by
  decide +kernel

end Schema

end SchemaDiagram
