/-
# SchemaDiagram.Proofs.Data.Checked -- when checked data is there

Each way to put checked data together gives data exactly if its parts do.  What
that comes to for a value is said by the kind of the value: one that stands for a
text, one with entries that do, one that is a text or null.
-/
import Mathlib.Data.List.Basic
import SchemaDiagram.Data.Checked

namespace SchemaDiagram

set_option autoImplicit false

/-! ## Results -/

section Results

variable {ε ε' α β : Type}

theorem bind_eq_ok_iff {x : Except ε α} {f : α → Except ε β} {b : β} :
    (x >>= f) = .ok b ↔ ∃ a, x = .ok a ∧ f a = .ok b := by
  cases x <;> simp [bind, Except.bind]

theorem bind_eq_error_iff {x : Except ε α} {f : α → Except ε β} {e : ε} :
    (x >>= f) = .error e ↔ x = .error e ∨ ∃ a, x = .ok a ∧ f a = .error e := by
  cases x <;> simp [bind, Except.bind]

theorem mapError_eq_error_iff {x : Except ε α} {f : ε → ε'} {e : ε'} :
    x.mapError f = .error e ↔ ∃ e', x = .error e' ∧ f e' = e := by
  cases x <;> simp [Except.mapError]

theorem mapError_eq_ok_iff {x : Except ε α} {f : ε → ε'} {a : α} :
    x.mapError f = .ok a ↔ x = .ok a := by
  cases x <;> simp [Except.mapError]

@[simp] theorem mapError_ok (a : α) (f : ε → ε') :
    (.ok a : Except ε α).mapError f = .ok a :=
  mapError_eq_ok_iff.2 rfl

theorem map_eq_ok_iff {x : Except ε α} {f : α → β} {b : β} :
    x.map f = .ok b ↔ ∃ a, x = .ok a ∧ f a = b := by
  cases x <;> simp [Except.map]

/-- The result is no failure. -/
def Succeeds (x : Except ε α) : Prop :=
  ∃ a, x = .ok a

@[simp] theorem succeeds_ok (a : α) : Succeeds (.ok a : Except ε α) :=
  ⟨a, rfl⟩

@[simp] theorem not_succeeds_error (e : ε) : ¬ Succeeds (.error e : Except ε α) :=
  fun ⟨_, failed⟩ => nomatch failed

theorem succeeds_map_iff {x : Except ε α} {f : α → β} : Succeeds (x.map f) ↔ Succeeds x := by
  cases x <;> simp [Except.map]

theorem succeeds_mapError_iff {x : Except ε α} {f : ε → ε'} :
    Succeeds (x.mapError f) ↔ Succeeds x :=
  exists_congr fun _ => mapError_eq_ok_iff

theorem succeeds_bind_iff {x : Except ε α} {f : α → Except ε β} :
    Succeeds (x >>= f) ↔ ∃ a, x = .ok a ∧ Succeeds (f a) := by
  cases x <;> simp [bind, Except.bind]

/-- Whatever the result fails with is of that kind. -/
def FailsWith (kind : ε → Prop) (x : Except ε α) : Prop :=
  ∀ e, x = .error e → kind e

variable {kind : ε → Prop}

theorem failsWith_ok (a : α) : FailsWith kind (.ok a : Except ε α) :=
  fun _ failed => nomatch failed

theorem failsWith_error_iff {e : ε} : FailsWith kind (.error e : Except ε α) ↔ kind e :=
  ⟨fun fails => fails e rfl, fun known _ failed => Except.error.inj failed ▸ known⟩

theorem failsWith_bind_iff {x : Except ε α} {f : α → Except ε β} :
    FailsWith kind (x >>= f) ↔ FailsWith kind x ∧ ∀ a, x = .ok a → FailsWith kind (f a) := by
  cases x with
  | ok a => simpa [bind, Except.bind] using fun _ => failsWith_ok a
  | error e => simp [bind, Except.bind, failsWith_error_iff]

theorem failsWith_mapError_iff {x : Except ε' α} {f : ε' → ε} :
    FailsWith kind (x.mapError f) ↔ FailsWith (fun e => kind (f e)) x := by
  cases x with
  | ok a => exact iff_of_true (failsWith_ok a) (failsWith_ok a)
  | error e => rw [Except.mapError, failsWith_error_iff, failsWith_error_iff]

/-- Where no failure is of that kind, there is none at all. -/
theorem FailsWith.failsWith_iff_succeeds {x : Except ε α}
    (never : FailsWith (fun e => ¬ kind e) x) : FailsWith kind x ↔ Succeeds x := by
  cases x with
  | ok a => exact iff_of_true (failsWith_ok a) (succeeds_ok a)
  | error e => exact iff_of_false (fun fails => never e rfl (fails e rfl)) (not_succeeds_error e)

theorem FailsWith.bind {x : Except ε α} {f : α → Except ε β} (first : FailsWith kind x)
    (later : ∀ a, FailsWith kind (f a)) : FailsWith kind (x >>= f) := by
  cases x with
  | ok a => exact later a
  | error e => exact fun e' failed => first e' (Except.error.inj failed ▸ rfl)

theorem FailsWith.map {x : Except ε α} (first : FailsWith kind x) (f : α → β) :
    FailsWith kind (x.map f) := by
  cases x with
  | ok a => exact failsWith_ok _
  | error e => exact fun e' failed => first e' (Except.error.inj failed ▸ rfl)

theorem failsWith_mapError {x : Except ε' α} {f : ε' → ε} (each : ∀ e, kind (f e)) :
    FailsWith kind (x.mapError f) := by
  cases x with
  | ok a => exact failsWith_ok _
  | error e => exact fun e' failed => Except.error.inj failed ▸ each e

end Results

/-! ## Kinds of values -/

namespace Value

/-- A text, or bytes that are one. -/
def IsText (v : Value) : Prop :=
  (∃ s, v.untied = .text s) ∨
    ∃ content, v.untied = .bytes content ∧ (Checked.textOfBytes? content).isSome = true

def IsTextOrNull (v : Value) : Prop :=
  v.untied = .null ∨ v.IsText

/-- The items of a list, a pair or a set. -/
def entries? : Value → Option (List Value)
  | .list items => some items
  | .pair first second => some [first, second]
  | .set keys => some (keys.map .scalar)
  | _ => none

/-- A list of texts, or a pair or set of them. -/
def IsTexts (v : Value) : Prop :=
  ∃ items, v.untied.entries? = some items ∧ ∀ item ∈ items, item.IsText

end Value

/-! ## Checked data -/

namespace Checked

variable {α β : Type}

theorem apply_eq_ok_iff {f : Checked (α → β)} {x : Checked α} {b : β} :
    apply f x = .ok b ↔ ∃ g a, f = .ok g ∧ x = .ok a ∧ g a = b := by
  cases f <;> cases x <;> simp [apply]

theorem succeeds_apply_iff {f : Checked (α → β)} {x : Checked α} :
    Succeeds (apply f x) ↔ Succeeds f ∧ Succeeds x := by
  cases f <;> cases x <;> simp [apply]

theorem under_eq_ok_iff {step : Step} {x : Checked α} {a : α} :
    under step x = .ok a ↔ x = .ok a := by
  cases x <;> simp [under]

theorem succeeds_under_iff {step : Step} {x : Checked α} :
    Succeeds (under step x) ↔ Succeeds x := by
  cases x <;> simp [under]

theorem section_eq_ok_iff {name : String} {read : Members → Checked α} {v : Value} {a : α} :
    section_ name read v = .ok a ↔
      ∃ members, v.untied = .object members ∧ read members = .ok a := by
  rw [section_]
  split
  · rename_i members kind
    simp [kind]
  · rename_i whole
    exact iff_of_false nofun fun ⟨members, kind, _⟩ => whole members kind

/-- A member that may be missing is there if what stands under its key can be
read. -/
theorem succeeds_member_iff {key : String} {read : Value → Checked α} {default : α}
    {members : Members} :
    Succeeds (member key read default members) ↔
      ∀ v ∈ Members.get? key members, Succeeds (read v) := by
  rw [member]
  cases Members.get? key members with
  | none => simp
  | some v => simp [succeeds_under_iff]

theorem succeeds_itemsFrom_iff {read : Value → Checked α} {index : Nat} {items : List Value} :
    Succeeds (itemsFrom read index items) ↔ ∀ item ∈ items, Succeeds (read item) := by
  induction items generalizing index with
  | nil => simp [itemsFrom]
  | cons v rest ih =>
      rw [itemsFrom, succeeds_apply_iff, succeeds_apply_iff, succeeds_under_iff, ih,
        List.forall_mem_cons]
      simp

theorem succeeds_listOf_iff {read : Value → Checked α} {v : Value} :
    Succeeds (listOf read v) ↔
      ∃ items, v.untied.entries? = some items ∧ ∀ item ∈ items, Succeeds (read item) := by
  rw [listOf]
  split
  · rename_i items kind
    simp [kind, Value.entries?, succeeds_itemsFrom_iff]
  · rename_i first second kind
    simp [kind, Value.entries?, succeeds_itemsFrom_iff]
  · rename_i keys kind
    simp [kind, Value.entries?, succeeds_itemsFrom_iff]
  · rename_i notList notPair notSet
    have noEntries : v.untied.entries? = none := by
      cases kind : v.untied with
      | list items => exact absurd kind (notList items)
      | pair first second => exact absurd kind (notPair first second)
      | set keys => exact absurd kind (notSet keys)
      | _ => rfl
    simp [fail, noEntries]

theorem succeeds_text_iff {v : Value} : Succeeds (text v) ↔ v.IsText := by
  rw [text, Value.IsText]
  split
  · rename_i s kind
    simp [kind]
  · rename_i content kind
    cases decoded : textOfBytes? content <;> simp [kind, decoded, fail]
  · rename_i notText notBytes
    constructor
    · exact fun failed => absurd failed (not_succeeds_error _)
    · rintro (⟨s, kind⟩ | ⟨content, kind, -⟩)
      · exact absurd kind (notText s)
      · exact absurd kind (notBytes content)

theorem succeeds_textOrNull_iff {v : Value} :
    Succeeds (textOrNull v) ↔ v.IsTextOrNull := by
  rw [textOrNull, Value.IsTextOrNull]
  split
  · rename_i kind
    simp [kind]
  · rename_i notNull
    have other : ¬ v.untied = .null := notNull
    rw [succeeds_map_iff, succeeds_text_iff, Value.IsText, Value.untied_untied, ← Value.IsText,
      or_iff_right other]

theorem succeeds_listOf_text_iff {v : Value} : Succeeds (listOf text v) ↔ v.IsTexts := by
  simp only [succeeds_listOf_iff, succeeds_text_iff, Value.IsTexts]

end Checked

end SchemaDiagram
