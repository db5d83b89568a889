/-
# SchemaDiagram.Proofs.Data.Members -- members by their keys

Two keys are one if they have one form.  If no two members have one key, they are
determined by their keys in order and by what stands under each (`eq_of_keys`).

To write a member keeps all keys in their places, and puts a new one behind them
(`keys_put`).
-/
import Mathlib.Data.List.Nodup
import SchemaDiagram.Data.Value

namespace SchemaDiagram

set_option autoImplicit false

theorem Scalar.isSameKey_iff {a b : Scalar} : a.isSameKey b = true ↔ a.keyForm = b.keyForm := by
  rw [isSameKey, beq_iff_eq]

namespace Members

def keys (m : Members) : List Scalar :=
  m.map (·.1)

/-- No two of the members have one key. -/
def Distinct (m : Members) : Prop :=
  (m.keys.map Scalar.keyForm).Nodup

instance (m : Members) : Decidable m.Distinct :=
  inferInstanceAs (Decidable (m.keys.map Scalar.keyForm).Nodup)

variable {m m' : Members} {key key' : Scalar} {v : Value}

/-! ## Looking up -/

theorem get?_cons_of_same (same : key.keyForm = key'.keyForm) :
    get? key' ((key, v) :: m) = some v :=
  if_pos (Scalar.isSameKey_iff.2 same)

theorem get?_cons_of_ne (other : key.keyForm ≠ key'.keyForm) :
    get? key' ((key, v) :: m) = get? key' m :=
  if_neg (mt Scalar.isSameKey_iff.1 other)

theorem get?_congr (same : key.keyForm = key'.keyForm) : get? key m = get? key' m := by
  induction m with
  | nil => rfl
  | cons head rest ih => rw [get?, get?, Scalar.isSameKey, Scalar.isSameKey, same, ih]

theorem get?_eq_none_iff : get? key m = none ↔ key.keyForm ∉ m.keys.map Scalar.keyForm := by
  induction m with
  | nil => simp [get?, keys]
  | cons head rest ih =>
      obtain ⟨k, v⟩ := head
      rw [keys, List.map_cons, List.map_cons, List.mem_cons, not_or]
      by_cases same : k.keyForm = key.keyForm
      · simp [get?_cons_of_same same, same]
      · rw [get?_cons_of_ne same, ih, keys, and_iff_right (Ne.symm same)]

theorem get?_ne_none_of_mem_keys (member : key ∈ m.keys) : get? key m ≠ none := fun absent =>
  get?_eq_none_iff.1 absent (List.mem_map_of_mem member)

theorem mem_of_get? (found : get? key m = some v) :
    ∃ k, (k, v) ∈ m ∧ k.keyForm = key.keyForm := by
  induction m with
  | nil => cases found
  | cons head rest ih =>
      obtain ⟨k, w⟩ := head
      by_cases same : k.keyForm = key.keyForm
      · rw [get?_cons_of_same same] at found
        cases found
        exact ⟨k, List.mem_cons_self, same⟩
      · rw [get?_cons_of_ne same] at found
        obtain ⟨k', member, same'⟩ := ih found
        exact ⟨k', List.mem_cons_of_mem _ member, same'⟩

/-! ## Distinct keys -/

theorem distinct_nil : Distinct [] :=
  List.nodup_nil

theorem distinct_cons_iff : Distinct ((key, v) :: m) ↔ get? key m = none ∧ m.Distinct := by
  rw [Distinct, keys, List.map_cons, List.map_cons, List.nodup_cons, get?_eq_none_iff]
  rfl

/-- A key further on is another one than the first. -/
theorem keyForm_ne_of_mem_keys (distinct : Distinct ((key, v) :: m)) (member : key' ∈ m.keys) :
    key.keyForm ≠ key'.keyForm := fun same =>
  get?_eq_none_iff.1 (distinct_cons_iff.1 distinct).1 (same ▸ List.mem_map_of_mem member)

theorem filterMap_keys (distinct : m.Distinct) :
    (m.keys.filterMap fun key => (get? key m).map (key, ·)) = m := by
  induction m with
  | nil => rfl
  | cons head rest ih =>
      obtain ⟨k, v⟩ := head
      have later : ∀ key ∈ keys rest, (get? key ((k, v) :: rest)).map (key, ·) =
          (get? key rest).map (key, ·) := fun key member => by
        rw [get?_cons_of_ne (keyForm_ne_of_mem_keys distinct member)]
      rw [keys, List.map_cons, ← keys, List.filterMap_cons, get?_cons_of_same rfl]
      simp only [Option.map_some]
      rw [List.filterMap_congr later, ih (distinct_cons_iff.1 distinct).2]

/-- Members in distinct keys that have the same keys in order, and the same under each. -/
theorem eq_of_keys (distinct : m.Distinct) (distinct' : m'.Distinct) (sameKeys : m.keys = m'.keys)
    (same : ∀ key, get? key m = get? key m') : m = m' := by
  rw [← filterMap_keys distinct, ← filterMap_keys distinct', sameKeys]
  simp only [same]

/-! ## Writing -/

theorem get?_put_of_same (same : key.keyForm = key'.keyForm) :
    get? key' (put key v m) = some v := by
  rw [get?_put, if_pos (Scalar.isSameKey_iff.2 same.symm)]

theorem get?_put_of_ne (other : key.keyForm ≠ key'.keyForm) :
    get? key' (put key v m) = get? key' m := by
  rw [get?_put, if_neg (mt Scalar.isSameKey_iff.1 (Ne.symm other))]

theorem keys_put (key : Scalar) (v : Value) (m : Members) :
    (put key v m).keys = if (get? key m).isSome then m.keys else m.keys ++ [key] := by
  induction m with
  | nil => rfl
  | cons head rest ih =>
      obtain ⟨k, w⟩ := head
      by_cases same : k.keyForm = key.keyForm
      · rw [put, if_pos (Scalar.isSameKey_iff.2 same), get?_cons_of_same same]
        rfl
      · rw [put, if_neg (mt Scalar.isSameKey_iff.1 same), get?_cons_of_ne same, keys,
          List.map_cons, ← keys, ih]
        split <;> rfl

theorem distinct_put (distinct : m.Distinct) (key : Scalar) (v : Value) :
    (put key v m).Distinct := by
  rw [Distinct, keys_put]
  split
  · exact distinct
  · rename_i absent
    have new : get? key m = none := Option.not_isSome_iff_eq_none.1 absent
    rw [List.map_append, List.map_singleton, ← List.concat_eq_append, List.nodup_concat]
    exact ⟨get?_eq_none_iff.1 new, distinct⟩

end Members

end SchemaDiagram
