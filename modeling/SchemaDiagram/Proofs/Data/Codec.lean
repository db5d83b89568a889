/-
# SchemaDiagram.Proofs.Data.Codec -- data that is written and read by its parts

A `Codec` writes data as a value and reads data out of values.  What is read may hold more
than what is written, and it may be laid over something written (`Codec.readOver`).  The
laws of a codec say how the two go together: data is read back from any value that carries
it (`back`), what a value leaves open comes from below it (`shows`), and what is never
written is not looked at (`ignores`).

A `Record` has its data in slots, each with a codec of its own, and with these it has a
codec itself (`Record.codec`).  So the laws go from single texts and numbers to sections,
and from sections to all that holds them, by one theorem.
-/
import SchemaDiagram.Proofs.Data.Checked
import SchemaDiagram.Proofs.Data.Overlay

namespace SchemaDiagram

set_option autoImplicit false

namespace Value

/-! ## Values that carry others -/

/-- Every scalar of `w` stands in its place in `v`. -/
def Carries (v w : Value) : Prop :=
  ∀ path s, at? path w = some (.scalar s) → at? path v = some (.scalar s)

theorem Carries.refl (v : Value) : v.Carries v := fun _ _ leads => leads

/-- A value still carries what it did when it is laid over another one. -/
theorem Carries.overlay {v w : Value} (carries : v.Carries w) (keyed : v.WellKeyed)
    (lower : Value) : (overlay lower v).Carries w := fun path s leads =>
  at?_overlay_of_upper keyed (carries path s leads)
    (fun _ => (JsonLike.scalar s).overlay_eq nofun _) lower

theorem Carries.next {v w v' w' : Value} {key : Scalar} (carries : v.Carries w)
    (found : v.get? key = some v') (found' : w.get? key = some w') : v'.Carries w' := by
  intro path s leads
  have along := carries (key :: path) s (at?_cons_eq_some_iff.2 ⟨w', found', leads⟩)
  rwa [at?, found] at along

/-! ## The part that is asked for -/

mutual

/-- What `v` has of the members of `frame`, and of theirs in turn. -/
def within (v : Value) : Value → Value
  | .object frame =>
      match v.untied with
      | .object members => .object (membersWithin members frame)
      | _ => v
  | _ => v

def membersWithin (members : Members) : Members → Members
  | [] => []
  | (key, own) :: rest =>
      match members.get? key with
      | some v => (key, within v own) :: membersWithin members rest
      | none => membersWithin members rest

end

theorem get?_membersWithin (members frame : Members) (key : Scalar) :
    Members.get? key (membersWithin members frame) =
      (Members.get? key frame).bind fun own =>
        (Members.get? key members).map (within · own) := by
  induction frame with
  | nil => rfl
  | cons head rest ih =>
      obtain ⟨k, own⟩ := head
      rw [membersWithin]
      by_cases same : k.keyForm = key.keyForm
      · rw [Members.get?_cons_of_same same, Members.get?_congr same]
        cases found : Members.get? key members with
        | none => simp [ih, found]
        | some v => simp [Members.get?_cons_of_same same]
      · rw [Members.get?_cons_of_ne same, ← ih]
        cases Members.get? k members with
        | none => rfl
        | some v => exact Members.get?_cons_of_ne same

theorem distinct_membersWithin {frame : Members} (distinct : frame.Distinct)
    (members : Members) : (membersWithin members frame).Distinct := by
  induction frame with
  | nil => exact Members.distinct_nil
  | cons head rest ih =>
      obtain ⟨k, own⟩ := head
      obtain ⟨new, distinct⟩ := Members.distinct_cons_iff.1 distinct
      rw [membersWithin]
      cases Members.get? k members with
      | none => exact ih distinct
      | some v =>
          refine Members.distinct_cons_iff.2 ⟨?_, ih distinct⟩
          rw [get?_membersWithin, new]
          rfl

end Value

open Value

/-! ## Codecs -/

structure Codec (α : Type) where
  write : α → Value
  read : Value → Checked α
  json : ∀ a, (write a).JsonLike
  /-- There is something that a value must have to carry the data. -/
  leaf : ∀ a, ∃ path s, at? path (write a) = some (.scalar s)
  /-- Data is read back from where it stands, whatever stands beside it. -/
  back : ∀ a v, v.Carries (write a) → read v = .ok a
  /-- What a value leaves open is read from what it is laid over. -/
  shows : ∀ a under v, v.WellKeyed → read (overlay (write under) v) = .ok a →
    ∀ path s, at? path (write under) = some (.scalar s) → at? path v = none →
      at? path (write a) = some (.scalar s)
  /-- What is never written is not looked at. -/
  ignores : ∀ under v, v.WellKeyed →
    read (overlay (write under) (within v (write under))) = read (overlay (write under) v)

namespace Codec

section

variable {α : Type} (c : Codec α)

/-- Read what is laid over data that is there already. -/
def readOver (under : α) (v : Value) : Checked α :=
  c.read (overlay (c.write under) v)

theorem read_write (a : α) : c.read (c.write a) = .ok a :=
  c.back a _ (Carries.refl _)

theorem readOver_write (under a : α) : c.readOver under (c.write a) = .ok a :=
  c.back a _ ((Carries.refl _).overlay (c.json a).wellKeyed _)

/-- Data that lies on top of all else is what is read. -/
theorem readOver_overlay_write (under a : α) {v : Value} (keyed : v.WellKeyed) :
    c.readOver under (overlay v (c.write a)) = .ok a := by
  have keyedTop := (c.json a).wellKeyed
  have carries : (overlay v (c.write a)).Carries (c.write a) :=
    (Carries.refl _).overlay keyedTop v
  exact c.back a _ (carries.overlay (wellKeyed_overlay keyed keyedTop) _)

/-- Data that is written as a single scalar. -/
def ofScalar (write : α → Scalar) (read : Value → Checked α)
    (back : ∀ a, read (.scalar (write a)) = .ok a) : Codec α where
  write a := .scalar (write a)
  read := read
  json a := .scalar (write a)
  leaf a := ⟨[], write a, rfl⟩
  back a v carries := by
    cases carries [] (write a) rfl
    exact back a
  shows a under v keyed taken path s leads unset := by
    cases path with
    | nil => cases unset
    | cons key rest => cases leads
  ignores under v keyed := rfl

end

def text : Codec String :=
  ofScalar .text Checked.text fun _ => rfl

def boolean : Codec Bool :=
  ofScalar .bool Checked.boolean fun _ => rfl

def atLeast (least : Nat) : Codec { n : Nat // least ≤ n } :=
  ofScalar (fun n => .int n.val) (Checked.atLeast least) fun n => by
    simp [Checked.atLeast, Checked.integer, n.property]

@[simp] theorem text_read : text.read = Checked.text := rfl

@[simp] theorem boolean_read : boolean.read = Checked.boolean := rfl

@[simp] theorem atLeast_read (least : Nat) : (atLeast least).read = Checked.atLeast least := rfl

end Codec

/-! ## Records -/

/-- A part of data of type `α`, under the key that it is written with. -/
structure Slot (α : Type) where
  Part : Type
  key : String
  codec : Codec Part
  /-- What stands for a part that is missing. -/
  default : Part
  part : α → Part

namespace Slot

variable {α : Type} (slot : Slot α)

/-- The part that some members give. -/
def take (members : Members) : Checked slot.Part :=
  Checked.member slot.key slot.codec.read slot.default members

theorem take_eq_ok_iff {members : Members} {v : Value} {x : slot.Part}
    (found : Members.get? slot.key members = some v) :
    slot.take members = .ok x ↔ slot.codec.read v = .ok x := by
  rw [take, Checked.member, found, Checked.under_eq_ok_iff]

end Slot

/-- Data that is written and read slot by slot. -/
structure Record (α : Type) where
  name : String
  slots : List (Slot α)
  write : α → Members
  read : Members → Checked α
  nonempty : slots ≠ []
  distinct : (slots.map fun slot => Scalar.text slot.key).Nodup
  writes : ∀ a, write a = slots.map fun slot => (.text slot.key, slot.codec.write (slot.part a))
  reads : ∀ members a, read members = .ok a ↔
    ∀ slot ∈ slots, slot.take members = .ok (slot.part a)
  /-- Members that are alike to all slots fail alike as well. -/
  alike : ∀ members members', (∀ slot ∈ slots, slot.take members = slot.take members') →
    read members = read members'

namespace Record

variable {α : Type} (r : Record α) {slot : Slot α}

/-! ### What is written -/

theorem keys_write (a : α) : (r.write a).keys = r.slots.map fun slot => .text slot.key := by
  rw [r.writes, Members.keys, List.map_map]
  rfl

theorem distinct_write (a : α) : (r.write a).Distinct := by
  rw [Members.Distinct, keys_write, List.map_map]
  exact r.distinct

theorem get?_write (inside : slot ∈ r.slots) (a : α) :
    Members.get? slot.key (r.write a) = some (slot.codec.write (slot.part a)) := by
  have distinct : (r.write a).keys.Nodup := r.keys_write a ▸ r.distinct
  exact Members.get?_of_mem distinct (r.writes a ▸ List.mem_map.2 ⟨slot, inside, rfl⟩)

/-- What a record writes under a key is what one of its slots writes. -/
theorem exists_slot_of_get? {a : α} {key : Scalar} {v : Value}
    (found : Members.get? key (r.write a) = some v) :
    ∃ slot ∈ r.slots, key.keyForm = (Scalar.text slot.key).keyForm ∧
      slot.codec.write (slot.part a) = v := by
  obtain ⟨k, inside, same⟩ := Members.mem_of_get? found
  rw [r.writes, List.mem_map] at inside
  obtain ⟨slot, inside, written⟩ := inside
  cases written
  exact ⟨slot, inside, same.symm, rfl⟩

theorem json_write (a : α) : (object (r.write a)).JsonLike := by
  refine .object (r.distinct_write a) fun m inside => ?_
  rw [r.writes, List.mem_map] at inside
  obtain ⟨slot, -, rfl⟩ := inside
  exact slot.codec.json (slot.part a)

theorem exists_leaf (inside : slot ∈ r.slots) (a : α) :
    ∃ path s, at? (.text slot.key :: path) (.object (r.write a)) = some (.scalar s) := by
  obtain ⟨path, s, leads⟩ := slot.codec.leaf (slot.part a)
  exact ⟨path, s, at?_cons_eq_some_iff.2 ⟨_, r.get?_write inside a, leads⟩⟩

/-! ### What is read -/

/-- A value that carries what a record writes has each of its parts. -/
theorem exists_part_of_carries (inside : slot ∈ r.slots) {a : α} {v : Value}
    (carries : v.Carries (.object (r.write a))) :
    ∃ w, v.get? (.text slot.key) = some w ∧ w.Carries (slot.codec.write (slot.part a)) := by
  obtain ⟨path, s, leads⟩ := r.exists_leaf inside a
  obtain ⟨w, found, -⟩ := at?_cons_eq_some_iff.1 (carries _ s leads)
  exact ⟨w, found, carries.next found (r.get?_write inside a)⟩

theorem read_of_carries {a : α} {v : Value} (carries : v.Carries (.object (r.write a))) :
    Checked.section_ r.name r.read v = .ok a := by
  obtain ⟨first, inside⟩ := List.exists_mem_of_ne_nil _ r.nonempty
  obtain ⟨w, found, -⟩ := r.exists_part_of_carries inside carries
  obtain ⟨members, kind, -⟩ := exists_object_of_get? found
  refine Checked.section_eq_ok_iff.2 ⟨members, kind, (r.reads members a).2 fun slot inside => ?_⟩
  obtain ⟨w, found, below⟩ := r.exists_part_of_carries inside carries
  rw [get?_of_untied kind] at found
  exact (slot.take_eq_ok_iff found).2 (slot.codec.back _ w below)

theorem read_over {under : α} {v : Value} {members : Members} (kind : v.untied = .object members) :
    Checked.section_ r.name r.read (overlay (.object (r.write under)) v) =
      r.read (overlayMembers (r.write under) members) := by
  rw [← overlay_untied, kind, overlay_objects]
  rfl

/-- Over a record, a slot takes what is given for it over the part that is there. -/
theorem take_over (inside : slot ∈ r.slots) (under : α) {members : Members}
    (distinct : members.Distinct) :
    slot.take (overlayMembers (r.write under) members) =
      match Members.get? slot.key members with
      | some v => Checked.under (.key slot.key) (slot.codec.readOver (slot.part under) v)
      | none => .ok (slot.part under) := by
  rw [Slot.take, Checked.member, get?_overlayMembers distinct, r.get?_write inside]
  cases Members.get? slot.key members with
  | none => exact congrArg (Checked.under (.key slot.key)) (slot.codec.read_write _)
  | some v => rfl

theorem shows_through {a under : α} {v : Value} (keyed : v.WellKeyed)
    (taken : Checked.section_ r.name r.read (overlay (.object (r.write under)) v) = .ok a)
    {path : List Scalar} {s : Scalar}
    (leads : at? path (.object (r.write under)) = some (.scalar s))
    (unset : at? path v = none) : at? path (.object (r.write a)) = some (.scalar s) := by
  cases path with
  | nil => cases leads
  | cons key rest =>
      obtain ⟨w, written, leads⟩ := at?_cons_eq_some_iff.1 leads
      obtain ⟨slot, inside, same, rfl⟩ := r.exists_slot_of_get? written
      -- Only an object has been read.
      obtain ⟨_, kind, -⟩ := Checked.section_eq_ok_iff.1 taken
      obtain ⟨members, kind⟩ := exists_object_of_overlay kind
      rw [r.read_over kind] at taken
      have part := (r.reads _ a).1 taken slot inside
      rw [r.take_over inside under (keyed.distinct kind)] at part
      refine at?_cons_eq_some_iff.2
        ⟨_, (Members.get?_congr same).trans (r.get?_write inside a), ?_⟩
      cases given : Members.get? slot.key members with
      | none =>
          rw [given] at part
          rwa [← Except.ok.inj part]
      | some w =>
          have found : v.get? key = some w := by
            rw [get?_of_untied kind, Members.get?_congr same, given]
          rw [given] at part
          rw [at?, found] at unset
          exact slot.codec.shows _ _ w (keyed.next found) (Checked.under_eq_ok_iff.1 part) rest s
            leads unset

theorem read_within (under : α) {v : Value} (keyed : v.WellKeyed) :
    Checked.section_ r.name r.read
        (overlay (.object (r.write under)) (within v (.object (r.write under)))) =
      Checked.section_ r.name r.read (overlay (.object (r.write under)) v) := by
  rw [within]
  split
  · rename_i members kind
    have distinct := keyed.distinct kind
    have distinct' := distinct_membersWithin (r.distinct_write under) members
    rw [r.read_over kind, r.read_over rfl]
    refine r.alike _ _ fun slot inside => ?_
    rw [r.take_over inside under distinct, r.take_over inside under distinct',
      get?_membersWithin, r.get?_write inside]
    cases given : Members.get? slot.key members with
    | none => rfl
    | some w =>
        have keyed : w.WellKeyed := keyed.next ((get?_of_untied kind _).trans given)
        exact congrArg (Checked.under (.key slot.key)) (slot.codec.ignores _ w keyed)
  · rfl

def codec : Codec α where
  write a := .object (r.write a)
  read := Checked.section_ r.name r.read
  json := r.json_write
  leaf a := by
    obtain ⟨slot, inside⟩ := List.exists_mem_of_ne_nil _ r.nonempty
    obtain ⟨path, s, leads⟩ := r.exists_leaf inside a
    exact ⟨_, s, leads⟩
  back a v := r.read_of_carries
  shows a under v keyed taken path s leads := r.shows_through keyed taken leads
  ignores under v := r.read_within under

@[simp] theorem codec_read : r.codec.read = Checked.section_ r.name r.read := rfl

end Record

end SchemaDiagram
