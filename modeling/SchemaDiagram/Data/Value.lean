/-
# SchemaDiagram.Data.Value -- values of JSON and YAML documents

An object is a list of members in the order in which they were first written.
JSON has scalars, lists and objects alone, and its keys are texts.  YAML also has
pairs and sets, and values that hold themselves.

`overlay` lays one object over another: where both hold an object under a key
the two are merged, otherwise the upper value stands.  Keys of the lower object
keep their place and new keys follow.
-/
import SchemaDiagram.Data.Scalar

namespace SchemaDiagram

set_option autoImplicit false

inductive Value where
  | scalar (s : Scalar)
  | list (items : List Value)
  | object (members : List (Scalar × Value))
  | pair (first second : Value)
  | set (keys : List Scalar)
  /-- A value that holds itself, and each place in it where it does so.  It is what
  `inside` shows of it, which is cut off after some turns. -/
  | knot (name : String) (inside : Value)

/-- The members of an object, in order. -/
abbrev Members := List (Scalar × Value)

namespace Value

@[match_pattern] abbrev null : Value := .scalar .null

@[match_pattern] abbrev bool (b : Bool) : Value := .scalar (.bool b)

@[match_pattern] abbrev int (n : Int) : Value := .scalar (.int n)

@[match_pattern] abbrev real (x : Binary64) : Value := .scalar (.real x)

@[match_pattern] abbrev text (s : String) : Value := .scalar (.text s)

@[match_pattern] abbrev bytes (content : List UInt8) : Value := .scalar (.bytes content)

end Value

instance instInhabitedValue : Inhabited Value := ⟨.null⟩

namespace Members

def get? (key : Scalar) : Members → Option Value
  | [] => none
  | (k, v) :: rest => if k.isSameKey key then some v else get? key rest

/-- Write `value` under `key`: in the place of a value already there, else
behind all others.  The key that is there stays. -/
def put (key : Scalar) (value : Value) : Members → Members
  | [] => [(key, value)]
  | (k, v) :: rest =>
      if k.isSameKey key then (k, value) :: rest else (k, v) :: put key value rest

/-- Writing under a key changes what stands under that key alone. -/
theorem get?_put (key : Scalar) (value : Value) (m : Members) (k : Scalar) :
    get? k (put key value m) = if k.isSameKey key then some value else get? k m := by
  induction m with
  | nil =>
      by_cases h : key.keyForm = k.keyForm
      · simp [put, get?, Scalar.isSameKey, h]
      · simp [put, get?, Scalar.isSameKey, h, Ne.symm h]
  | cons head rest ih =>
      obtain ⟨k', v⟩ := head
      by_cases h : k'.keyForm = key.keyForm
      · by_cases hk : key.keyForm = k.keyForm
        · simp [put, get?, Scalar.isSameKey, h, hk]
        · simp [put, get?, Scalar.isSameKey, h, hk, Ne.symm hk]
      · by_cases hk : k'.keyForm = k.keyForm
        · have : k.keyForm ≠ key.keyForm := hk ▸ h
          simp [put, get?, Scalar.isSameKey, hk, this]
        · simpa [put, get?, Scalar.isSameKey, h, hk] using ih

/-- Of distinct keys each has the value that is written with it. -/
theorem get?_of_mem {key : String} {v : Value} {members : Members}
    (distinct : (members.map (·.1)).Nodup)
    (member : (.text key, v) ∈ members) : get? key members = some v := by
  induction members with
  | nil => cases member
  | cons m rest ih =>
      obtain ⟨first, w⟩ := m
      rw [List.map_cons, List.nodup_cons] at distinct
      rcases List.mem_cons.1 member with same | later
      · cases same
        simp [get?, Scalar.isSameKey]
      · have other : first ≠ .text key := by
          rintro rfl
          exact distinct.1 (List.mem_map.2 ⟨_, later, rfl⟩)
        rw [get?, if_neg (mt Scalar.isSameKey_text_iff.1 other)]
        exact ih distinct.2 later

/-- The texts among the keys. -/
def textKeys (m : Members) : List String :=
  m.filterMap fun
    | (.text key, _) => some key
    | _ => none

end Members

namespace Value

/-- What a value that holds itself shows. -/
def untied : Value → Value
  | .knot _ inside => inside.untied
  | v => v

theorem untied_untied (v : Value) : v.untied.untied = v.untied := by
  fun_induction untied v with
  | case1 name inside ih => exact ih
  | case2 v untied_ =>
      cases v with
      | knot name inside => exact absurd rfl (untied_ name inside)
      | _ => rfl

/-- The name of the kind of a value, as failures call it. -/
def kind : Value → String
  | .scalar s => s.kind
  | .list _ => "list"
  | .object _ => "dict"
  | .pair .. => "tuple"
  | .set _ => "set"
  | .knot _ inside => inside.kind

/-- Whether a value counts as nothing: null, false, zero, and what has no parts. -/
def isNothing : Value → Bool
  | .scalar s => s.isNothing
  | .list items => items.isEmpty
  | .object members => members.isEmpty
  | .pair .. => false
  | .set keys => keys.isEmpty
  | .knot _ inside => inside.isNothing

/-- The items of a value that has some: the characters of a text, the keys of an
object. -/
def items? : Value → Option (List Value)
  | .text s => some (s.toList.map fun c => .text c.toString)
  | .bytes content => some (content.map fun b => .int b.toNat)
  | .scalar _ => none
  | .list items => some items
  | .object members => some (members.map fun m => .scalar m.1)
  | .pair first second => some [first, second]
  | .set keys => some (keys.map .scalar)
  | .knot _ inside => inside.items?

/-- The value under a key of an object. -/
def get? (key : Scalar) (v : Value) : Option Value :=
  match v.untied with
  | .object members => Members.get? key members
  | _ => none

/-- A text, or null for its absence. -/
def ofText? : Option String → Value
  | some s => .text s
  | none => .null

def ofTexts (texts : List String) : Value :=
  .list (texts.map .text)

mutual

/-- `upper` laid over `lower`. -/
def overlay (lower : Value) : Value → Value
  | .object members =>
      match lower.untied with
      | .object under => .object (overlayMembers under members)
      | _ => .object members
  | .knot _ inside => overlay lower inside
  | value => value

def overlayMembers (under : Members) : Members → Members
  | [] => under
  | (key, value) :: rest =>
      let laid :=
        match under.get? key with
        | some lower => overlay lower value
        | none => value
      overlayMembers (under.put key laid) rest

end

end Value

end SchemaDiagram
