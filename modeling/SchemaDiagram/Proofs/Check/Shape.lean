/-
# SchemaDiagram.Proofs.Check.Shape -- values that fit a shape

A value fits a shape if the check finds nothing wrong with it.  The lemmas say
shape by shape what that means of the value: its kind, then its items or its
members (`fits_record_iff`).  A document passes the check iff it fits the shape of
documents (`checkDocument_valid_iff`).
-/
import SchemaDiagram.Check.DocumentShape

namespace SchemaDiagram

set_option autoImplicit false

namespace Shape

/-- The check finds nothing wrong with the value. -/
def Fits (shape : Shape) (v : Value) : Prop :=
  shape.violations v = []

variable {v : Value}

/-! ## Values without parts -/

theorem fits_text_iff : Fits .text v ↔ ∃ s, v.untied = .text s := by
  rw [Fits, violations]
  split
  · rename_i s kind
    exact ⟨fun _ => ⟨s, kind⟩, fun _ => rfl⟩
  · rename_i other
    simpa [wrongKind] using other

theorem fits_textOrNull_iff :
    Fits .textOrNull v ↔ v.untied = .null ∨ ∃ s, v.untied = .text s := by
  rw [Fits, violations]
  split
  · rename_i s kind
    exact ⟨fun _ => .inr ⟨s, kind⟩, fun _ => rfl⟩
  · rename_i kind
    exact ⟨fun _ => .inl kind, fun _ => rfl⟩
  · rename_i notText notNull
    simpa [wrongKind] using ⟨notNull, notText⟩

theorem fits_flag_iff : Fits .flag v ↔ ∃ b, v.untied = .bool b := by
  rw [Fits, violations]
  split
  · rename_i b kind
    exact ⟨fun _ => ⟨b, kind⟩, fun _ => rfl⟩
  · rename_i other
    simpa [wrongKind] using other

theorem fits_number_iff :
    Fits .number v ↔ (∃ n, v.untied = .int n) ∨ ∃ x, v.untied = .real x := by
  rw [Fits, violations]
  split
  · rename_i n kind
    exact ⟨fun _ => .inl ⟨n, kind⟩, fun _ => rfl⟩
  · rename_i x kind
    exact ⟨fun _ => .inr ⟨x, kind⟩, fun _ => rfl⟩
  · rename_i notInt notReal
    simpa [wrongKind] using ⟨notInt, notReal⟩

theorem fits_oneOf_iff {texts : List String} :
    Fits (.oneOf texts) v ↔ ∃ s ∈ texts, v.untied = .text s := by
  rw [Fits, violations]
  split
  · rename_i s kind
    rw [kind]
    by_cases known : s ∈ texts <;> simp [known, notOneOf]
  · rename_i other
    simpa [notOneOf] using fun s _ => other s

/-! ## Lists and records -/

theorem itemViolations_eq_nil_iff {check : Value → List Violation} {index : Nat}
    {items : List Value} :
    itemViolations check index items = [] ↔ ∀ item ∈ items, check item = [] := by
  induction items generalizing index with
  | nil => simp [itemViolations]
  | cons item rest ih =>
      rw [itemViolations, List.append_eq_nil_iff, List.map_eq_nil_iff, ih, List.forall_mem_cons]

theorem fits_listOf_iff {item : Shape} :
    Fits (.listOf item) v ↔ ∃ items, v.untied = .list items ∧ ∀ w ∈ items, Fits item w := by
  rw [Fits, violations]
  split
  · rename_i items kind
    rw [itemViolations_eq_nil_iff]
    constructor
    · exact fun each => ⟨items, kind, each⟩
    · rintro ⟨others, kind', each⟩
      rw [kind, Value.list.injEq] at kind'
      exact kind' ▸ each
  · rename_i other
    constructor
    · simp [wrongKind]
    · rintro ⟨items, kind, -⟩
      exact absurd kind (other items)

theorem memberViolations_eq_nil_iff {shapes : List (String × Shape)} {members : Members} :
    memberViolations shapes members = [] ↔
      ∀ p ∈ shapes, ∀ w ∈ Members.get? p.1 members, Fits p.2 w := by
  induction shapes with
  | nil => simp [memberViolations]
  | cons head rest ih =>
      obtain ⟨key, shape⟩ := head
      rw [memberViolations, List.append_eq_nil_iff, ih, List.forall_mem_cons]
      refine and_congr ?_ Iff.rfl
      cases found : Members.get? key members with
      | none => simp
      | some w => simp [Fits]

theorem missing_eq_nil_iff {members : Members} {required : List String} :
    missing members required = [] ↔ ∀ key ∈ required, (Members.get? key members).isSome = true := by
  simp [missing, Option.isSome_iff_ne_none]

/-- A record has its required members, and its members fit the shapes given for
them. -/
theorem fits_record_iff {required : List String} {shapes : List (String × Shape)} :
    Fits (.record required shapes) v ↔ ∃ members, v.untied = .object members ∧
      (∀ key ∈ required, (Members.get? key members).isSome = true) ∧
        ∀ p ∈ shapes, ∀ w ∈ Members.get? p.1 members, Fits p.2 w := by
  rw [Fits, violations]
  split
  · rename_i members kind
    rw [List.append_eq_nil_iff, missing_eq_nil_iff, memberViolations_eq_nil_iff]
    constructor
    · exact fun parts => ⟨members, kind, parts⟩
    · rintro ⟨others, kind', parts⟩
      rw [kind, Value.object.injEq] at kind'
      exact kind' ▸ parts
  · rename_i other
    constructor
    · simp [wrongKind]
    · rintro ⟨members, kind, -⟩
      exact absurd kind (other members)

/-- What stands under a key of a record fits the shape for that key. -/
theorem Fits.member {required : List String} {shapes : List (String × Shape)} {key : String}
    {shape : Shape} (fits : Fits (.record required shapes) v) (named : (key, shape) ∈ shapes) :
    ∀ w ∈ v.get? key, Fits shape w := by
  obtain ⟨members, kind, -, each⟩ := fits_record_iff.1 fits
  rw [Value.get?, kind]
  exact each _ named

end Shape

/-! ## Documents -/

theorem checkDocument_valid_iff {document : Value} :
    (checkDocument document).valid = true ↔ Shape.document.Fits document := by
  rw [checkDocument, Shape.Fits]
  cases found : Shape.document.violations document with
  | nil => simp [Violation.chosen?, Report.ofFindings]
  | cons v rest => simp [Violation.chosen?, Report.ofFindings, Report.add, Violation.finding]

end SchemaDiagram
