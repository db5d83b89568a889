/-
# SchemaDiagram.Proofs.Data.Overlay -- one object over another

What stands under a key of an overlay is what stands there in the upper object, laid over
what stands there in the lower one, if that has the key (`get?_overlayMembers`).  The keys
are those of the lower object in order, then the new ones of the upper one in theirs
(`keys_overlayMembers`).  For values as JSON has them everything follows from these two:
an object over itself is that object, and laying it on once more changes nothing.

Along a path, both objects are followed as long as both have a value there
(`at?_overlay_of_both`).  So the upper one decides wherever it ends, the lower one
wherever the upper one breaks off, and where both have an object its keys are in that
order (`overlay_laws`).
-/
import SchemaDiagram.Proofs.Data.Members

namespace SchemaDiagram

set_option autoImplicit false

namespace Value

/-! ## Paths -/

/-- The value that the keys lead to, one after the other. -/
def at? : List Scalar → Value → Option Value
  | [], v => some v
  | key :: rest, v => (v.get? key).bind (at? rest)

theorem at?_append (front back : List Scalar) (v : Value) :
    at? (front ++ back) v = (at? front v).bind (at? back) := by
  induction front generalizing v with
  | nil => rfl
  | cons key rest ih =>
      rw [List.cons_append, at?, at?, Option.bind_assoc]
      exact congrArg _ (funext ih)

theorem at?_cons_eq_some_iff {key : Scalar} {rest : List Scalar} {v w : Value} :
    at? (key :: rest) v = some w ↔ ∃ next, v.get? key = some next ∧ at? rest next = some w := by
  rw [at?, Option.bind_eq_some_iff]

/-- Wherever a path leads to an object, its keys are distinct. -/
def WellKeyed (v : Value) : Prop :=
  ∀ path w (members : Members), at? path v = some w → w.untied = .object members →
    members.Distinct

theorem WellKeyed.distinct {v : Value} {members : Members} (keyed : v.WellKeyed)
    (kind : v.untied = .object members) : members.Distinct :=
  keyed [] v members rfl kind

theorem WellKeyed.next {v w : Value} {key : Scalar} (keyed : v.WellKeyed)
    (found : v.get? key = some w) : w.WellKeyed := fun path w' members leads =>
  keyed (key :: path) w' members (at?_cons_eq_some_iff.2 ⟨w, found, leads⟩)

/-- A value with members is an object. -/
theorem exists_object_of_get? {v w : Value} {key : Scalar} (found : v.get? key = some w) :
    ∃ members, v.untied = .object members ∧ Members.get? key members = some w := by
  rw [get?] at found
  split at found
  · rename_i members kind
    exact ⟨members, kind, found⟩
  · cases found

theorem get?_of_untied {v : Value} {members : Members} (kind : v.untied = .object members)
    (key : Scalar) : v.get? key = Members.get? key members := by
  rw [get?, kind]

/-! ## One level -/

/-- The value, laid over the lower one if there is one. -/
def laidOver (lower? : Option Value) (v : Value) : Value :=
  match lower? with
  | some lower => overlay lower v
  | none => v

theorem overlayMembers_cons (under : Members) (key : Scalar) (v : Value) (rest : Members) :
    overlayMembers under ((key, v) :: rest) =
      overlayMembers (under.put key (laidOver (under.get? key) v)) rest := by
  rw [overlayMembers]
  rfl

@[simp] theorem overlayMembers_nil (under : Members) : overlayMembers under [] = under := by
  rw [overlayMembers]

/-- What stands under a key of an overlay. -/
theorem get?_overlayMembers {upper : Members} (distinct : upper.Distinct) (lower : Members)
    (key : Scalar) :
    Members.get? key (overlayMembers lower upper) =
      match Members.get? key upper with
      | some v => some (laidOver (Members.get? key lower) v)
      | none => Members.get? key lower := by
  induction upper generalizing lower with
  | nil => rw [overlayMembers_nil]; rfl
  | cons head rest ih =>
      obtain ⟨k, v⟩ := head
      obtain ⟨new, distinct⟩ := Members.distinct_cons_iff.1 distinct
      rw [overlayMembers_cons, ih distinct]
      by_cases same : k.keyForm = key.keyForm
      · rw [Members.get?_put_of_same same, Members.get?_cons_of_same same,
          ← Members.get?_congr same, new, Members.get?_congr same]
      · rw [Members.get?_put_of_ne same, Members.get?_cons_of_ne same]

/-- The keys of an overlay: those that are there already, then those that are new. -/
theorem keys_overlayMembers {upper : Members} (distinct : upper.Distinct) (lower : Members) :
    (overlayMembers lower upper).keys =
      lower.keys ++ upper.keys.filter fun key => (Members.get? key lower).isNone := by
  induction upper generalizing lower with
  | nil => simp [Members.keys]
  | cons head rest ih =>
      obtain ⟨k, v⟩ := head
      -- The member that is written stands under none of the keys that follow.
      have unseen : ∀ key ∈ Members.keys rest,
          (Members.get? key (lower.put k (laidOver (lower.get? k) v))).isNone =
            (Members.get? key lower).isNone := fun key member => by
        rw [Members.get?_put_of_ne (Members.keyForm_ne_of_mem_keys distinct member)]
      rw [overlayMembers_cons, ih (Members.distinct_cons_iff.1 distinct).2, Members.keys_put,
        List.filter_congr unseen, Members.keys.eq_def ((k, v) :: rest), List.map_cons,
        List.filter_cons, ← Members.keys]
      cases Members.get? k lower <;> simp

theorem distinct_overlayMembers {lower : Members} (distinct : lower.Distinct) (upper : Members) :
    (overlayMembers lower upper).Distinct := by
  induction upper generalizing lower with
  | nil => simpa using distinct
  | cons head rest ih =>
      obtain ⟨k, v⟩ := head
      rw [overlayMembers_cons]
      exact ih (Members.distinct_put distinct k _)

theorem overlayMembers_of_empty {upper : Members} (distinct : upper.Distinct) :
    overlayMembers [] upper = upper := by
  have distinct' := distinct_overlayMembers Members.distinct_nil upper
  refine Members.eq_of_keys distinct' distinct ?_ fun key => ?_
  · rw [keys_overlayMembers distinct]
    exact List.filter_eq_self.2 fun _ _ => rfl
  · rw [get?_overlayMembers distinct]
    cases Members.get? key upper <;> rfl

/-- The members of an object, none for any other value. -/
def members (v : Value) : Members :=
  match v.untied with
  | .object members => members
  | _ => []

theorem members_object (members : Members) : (object members).members = members := rfl

theorem get?_members (v : Value) (key : Scalar) : Members.get? key v.members = v.get? key := by
  rw [members, get?]
  cases v.untied <;> rfl

theorem WellKeyed.distinct_members {v : Value} (keyed : v.WellKeyed) : v.members.Distinct := by
  rw [members]
  cases kind : v.untied with
  | object members => exact keyed.distinct kind
  | _ => exact Members.distinct_nil

theorem overlay_object {upper : Members} (distinct : upper.Distinct) (lower : Value) :
    overlay lower (.object upper) = .object (overlayMembers lower.members upper) := by
  rw [overlay, members]
  cases lower.untied with
  | object under => rfl
  | _ => exact congrArg object (overlayMembers_of_empty distinct).symm

theorem overlay_objects (lower upper : Members) :
    overlay (.object lower) (.object upper) = .object (overlayMembers lower upper) := by
  rw [overlay]
  rfl

/-- What holds itself is laid over as what it shows. -/
theorem overlay_untied (lower v : Value) : overlay lower v.untied = overlay lower v := by
  fun_induction untied v with
  | case1 name inside ih => rw [ih, overlay]
  | case2 v whole => rfl

/-- What stands under a key of a value laid over another. -/
theorem get?_overlay {upper : Value} {above : Members} (kind : upper.untied = .object above)
    (distinct : above.Distinct) (lower : Value) (key : Scalar) :
    (overlay lower upper).get? key =
      match Members.get? key above with
      | some v => some (laidOver (lower.get? key) v)
      | none => lower.get? key := by
  rw [← overlay_untied, kind, overlay_object distinct, get?_of_untied rfl,
    get?_overlayMembers distinct, get?_members]

/-- Where the upper value ends in something that nothing shows through, so does the
overlay. -/
theorem at?_overlay_of_upper {path : List Scalar} {upper e : Value} (keyed : upper.WellKeyed)
    (leads : at? path upper = some e) (covers : ∀ lower, overlay lower e = e) (lower : Value) :
    at? path (overlay lower upper) = some e := by
  induction path generalizing lower upper with
  | nil =>
      cases leads
      rw [at?, covers]
  | cons key rest ih =>
      obtain ⟨next, found, leads⟩ := at?_cons_eq_some_iff.1 leads
      obtain ⟨above, kind, inside⟩ := exists_object_of_get? found
      refine at?_cons_eq_some_iff.2 ⟨_, by rw [get?_overlay kind (keyed.distinct kind), inside], ?_⟩
      cases lower.get? key with
      | none => exact leads
      | some under => exact ih (keyed.next found) leads under

/-- Nothing shows through what is no object. -/
theorem overlay_of_whole {upper : Value} (whole : ∀ members, upper.untied ≠ .object members)
    (lower : Value) : overlay lower upper = upper.untied := by
  fun_induction untied upper with
  | case1 name inside ih => rw [overlay, ih whole]
  | case2 v notKnot =>
      cases v with
      | object members => exact absurd rfl (whole members)
      | knot name inside => exact absurd rfl (notKnot name inside)
      | _ => simp [overlay]

/-- Only an object makes an object of what it is laid over. -/
theorem exists_object_of_overlay {lower upper : Value} {members : Members}
    (kind : (overlay lower upper).untied = .object members) :
    ∃ above, upper.untied = .object above := by
  by_contra whole
  rw [overlay_of_whole (not_exists.1 whole), untied_untied] at kind
  exact whole ⟨members, kind⟩

/-- What stands in an overlay stands in one of the two, or is itself an overlay. -/
theorem cases_get?_overlay {lower upper next : Value} {key : Scalar} (keyed : upper.WellKeyed)
    (found : (overlay lower upper).get? key = some next) :
    lower.get? key = some next ∨ upper.get? key = some next ∨
      ∃ l u, lower.get? key = some l ∧ upper.get? key = some u ∧ overlay l u = next := by
  obtain ⟨_, kind, -⟩ := exists_object_of_get? found
  obtain ⟨above, kind⟩ := exists_object_of_overlay kind
  rw [get?_overlay kind (keyed.distinct kind), ← get?_of_untied kind] at found
  cases onTop : upper.get? key with
  | none => exact .inl (by simpa [onTop] using found)
  | some u =>
      cases below : lower.get? key with
      | none => exact .inr (.inl (by simpa [onTop, below, laidOver] using found))
      | some l => exact .inr (.inr ⟨l, u, rfl, rfl, by simpa [onTop, below, laidOver] using found⟩)

/-- An overlay has distinct keys wherever the two values have. -/
theorem wellKeyed_overlay {lower upper : Value} (keyedLower : lower.WellKeyed)
    (keyedUpper : upper.WellKeyed) : (overlay lower upper).WellKeyed := by
  intro path w members leads kind
  induction path generalizing lower upper with
  | nil =>
      cases leads
      obtain ⟨above, kindOfUpper⟩ := exists_object_of_overlay kind
      rw [← overlay_untied, kindOfUpper, overlay_object (keyedUpper.distinct kindOfUpper)] at kind
      cases kind
      exact distinct_overlayMembers keyedLower.distinct_members above
  | cons key rest ih =>
      obtain ⟨next, found, leads⟩ := at?_cons_eq_some_iff.1 leads
      obtain below | above | ⟨l, u, below, above, rfl⟩ := cases_get?_overlay keyedUpper found
      · exact keyedLower.next below rest w members leads kind
      · exact keyedUpper.next above rest w members leads kind
      · exact ih (keyedLower.next below) (keyedUpper.next above) leads

/-! ## Values as JSON has them -/

/-- A scalar, a list of such values, or an object of them in distinct keys. -/
inductive JsonLike : Value → Prop
  | scalar (s : Scalar) : JsonLike (.scalar s)
  | list {items : List Value} (each : ∀ v ∈ items, JsonLike v) : JsonLike (.list items)
  | object {members : Members} (distinct : members.Distinct)
      (each : ∀ m ∈ members, JsonLike m.2) : JsonLike (.object members)

theorem JsonLike.untied_eq {v : Value} (json : v.JsonLike) : v.untied = v := by
  cases json <;> rfl

theorem JsonLike.distinct_members {v : Value} (json : v.JsonLike) : v.members.Distinct := by
  cases json with
  | object distinct each => exact distinct
  | _ => exact Members.distinct_nil

/-- A value with members is an object, and has values as JSON has them as well. -/
theorem JsonLike.exists_object_of_get? {v w : Value} {key : Scalar} (json : v.JsonLike)
    (found : v.get? key = some w) :
    ∃ members, v = .object members ∧ Members.get? key members = some w ∧ w.JsonLike := by
  obtain ⟨members, kind, found⟩ := Value.exists_object_of_get? found
  rw [json.untied_eq] at kind
  subst kind
  cases json with
  | object distinct each =>
      obtain ⟨k, member, -⟩ := Members.mem_of_get? found
      exact ⟨members, rfl, found, each _ member⟩

theorem JsonLike.at? {path : List Scalar} {v w : Value} (json : v.JsonLike)
    (leads : v.at? path = some w) : w.JsonLike := by
  induction path generalizing v with
  | nil => cases leads; exact json
  | cons key rest ih =>
      obtain ⟨next, found, leads⟩ := at?_cons_eq_some_iff.1 leads
      obtain ⟨-, -, -, json⟩ := json.exists_object_of_get? found
      exact ih json leads

theorem JsonLike.overlay_eq {v : Value} (json : v.JsonLike) (whole : ∀ members, v ≠ .object members)
    (lower : Value) : overlay lower v = v := by
  rw [overlay_of_whole (json.untied_eq.symm ▸ whole), json.untied_eq]

theorem JsonLike.wellKeyed {v : Value} (json : v.JsonLike) : v.WellKeyed := by
  intro path w members leads kind
  have json := json.at? leads
  rw [json.untied_eq] at kind
  exact (kind ▸ json).distinct_members

/-! ## Laying on once more -/

/-- Keys that are all there already add nothing. -/
theorem keys_overlayMembers_of_subset {lower upper : Members} (distinct : upper.Distinct)
    (there : ∀ key ∈ upper.keys, Members.get? key lower ≠ none) :
    (overlayMembers lower upper).keys = lower.keys := by
  have nothing : upper.keys.filter (fun key => (Members.get? key lower).isNone) = [] :=
    List.filter_eq_nil_iff.2 fun key inside absent =>
      there key inside (Option.isNone_iff_eq_none.1 absent)
  rw [keys_overlayMembers distinct, nothing, List.append_nil]

theorem overlay_self {v : Value} (json : v.JsonLike) : overlay v v = v := by
  induction json with
  | scalar s => exact (JsonLike.scalar s).overlay_eq nofun _
  | list each => exact (JsonLike.list each).overlay_eq nofun _
  | @object members distinct each ih =>
      rw [overlay_object distinct, members_object, object.injEq]
      refine Members.eq_of_keys (distinct_overlayMembers distinct members) distinct ?_ fun key => ?_
      · exact keys_overlayMembers_of_subset distinct fun key => Members.get?_ne_none_of_mem_keys
      · rw [get?_overlayMembers distinct]
        cases found : Members.get? key members with
        | none => rfl
        | some v =>
            obtain ⟨k, inside, -⟩ := Members.mem_of_get? found
            exact congrArg some (ih _ inside)

theorem overlay_again {lower upper : Value} (jsonLower : lower.JsonLike)
    (jsonUpper : upper.JsonLike) :
    overlay (overlay lower upper) upper = overlay lower upper := by
  induction jsonUpper generalizing lower with
  | scalar s => exact (JsonLike.scalar s).overlay_eq nofun _
  | list each => exact (JsonLike.list each).overlay_eq nofun _
  | @object upper distinct each ih =>
      rw [overlay_object distinct, overlay_object distinct, members_object, object.injEq]
      have once := distinct_overlayMembers jsonLower.distinct_members upper
      refine Members.eq_of_keys (distinct_overlayMembers once upper) once ?_ fun key => ?_
      · refine keys_overlayMembers_of_subset distinct fun key inside absent => ?_
        rw [get?_overlayMembers distinct] at absent
        cases found : Members.get? key upper with
        | none => exact Members.get?_ne_none_of_mem_keys inside found
        | some v => simp [found] at absent
      · rw [get?_overlayMembers distinct, get?_overlayMembers distinct]
        cases found : Members.get? key upper with
        | none => rfl
        | some v =>
            obtain ⟨k, inside, -⟩ := Members.mem_of_get? found
            refine congrArg some ?_
            rw [get?_members]
            cases under : lower.get? key with
            | none => exact overlay_self (each _ inside)
            | some l =>
                obtain ⟨-, -, -, jsonLower⟩ := jsonLower.exists_object_of_get? under
                exact ih _ inside jsonLower

/-! ## Paths that both have -/

theorem at?_overlay_of_both {path : List Scalar} {lower upper l u : Value}
    (jsonLower : lower.JsonLike) (keyed : upper.WellKeyed) (leadsLower : at? path lower = some l)
    (leadsUpper : at? path upper = some u) :
    at? path (overlay lower upper) = some (overlay l u) := by
  induction path generalizing lower upper with
  | nil =>
      cases leadsLower
      cases leadsUpper
      rfl
  | cons key rest ih =>
      obtain ⟨nextLower, foundLower, restLower⟩ := at?_cons_eq_some_iff.1 leadsLower
      obtain ⟨nextUpper, foundUpper, restUpper⟩ := at?_cons_eq_some_iff.1 leadsUpper
      obtain ⟨under, rfl, insideLower, jsonLower⟩ := jsonLower.exists_object_of_get? foundLower
      obtain ⟨above, kind, insideUpper⟩ := exists_object_of_get? foundUpper
      refine at?_cons_eq_some_iff.2 ⟨overlay nextLower nextUpper, ?_, ?_⟩
      · rw [get?_overlay kind (keyed.distinct kind), insideUpper, foundLower]
        rfl
      · exact ih jsonLower (keyed.next foundUpper) restLower restUpper

/-! ## The laws -/

/-- What `whole` has of `lower` and of `upper` above it. -/
structure Combines (lower upper whole : Value) : Prop where
  /-- What the upper object ends in stands in its place. -/
  fromUpper : ∀ path v, at? path upper = some v → (∀ members, v ≠ .object members) →
    at? path whole = some v
  /-- What the lower object has is kept if the upper one goes along up to a key that it
  does not have. -/
  fromLower : ∀ front key back v members, at? (front ++ key :: back) lower = some v →
    at? front upper = some (.object members) → Members.get? key members = none →
      at? (front ++ key :: back) whole = some v
  /-- Of two objects in one place, the new keys of the upper one follow those of the lower. -/
  keys : ∀ path (under above : Members), at? path lower = some (.object under) →
    at? path upper = some (.object above) →
      ∃ members : Members, at? path whole = some (.object members) ∧
        members.keys = under.keys ++ above.keys.filter fun key => (Members.get? key under).isNone

theorem combines_overlay {lower upper : Value} (jsonLower : lower.JsonLike)
    (jsonUpper : upper.JsonLike) : Combines lower upper (overlay lower upper) where
  fromUpper path v leads whole :=
    at?_overlay_of_upper jsonUpper.wellKeyed leads ((jsonUpper.at? leads).overlay_eq whole) lower
  fromLower front key back v above leads goesAlong missing := by
    rw [at?_append, Option.bind_eq_some_iff] at leads ⊢
    obtain ⟨l, leads, goesOn⟩ := leads
    refine ⟨_, at?_overlay_of_both jsonLower jsonUpper.wellKeyed leads goesAlong, ?_⟩
    -- From here on the upper object has nothing, and the lower one shows through.
    have distinct : Members.Distinct above := (jsonUpper.at? goesAlong).distinct_members
    obtain ⟨next, found, rest⟩ := at?_cons_eq_some_iff.1 goesOn
    obtain ⟨under, rfl, inside, -⟩ := (jsonLower.at? leads).exists_object_of_get? found
    refine at?_cons_eq_some_iff.2 ⟨next, ?_, rest⟩
    rw [get?_overlay rfl distinct, missing]
    exact inside
  keys path under above leadsLower leadsUpper := by
    have distinct : above.Distinct := (jsonUpper.at? leadsUpper).distinct_members
    refine ⟨overlayMembers under above, ?_, keys_overlayMembers distinct under⟩
    rw [at?_overlay_of_both jsonLower jsonUpper.wellKeyed leadsLower leadsUpper,
      overlay_object distinct, members_object]

/-- **Laws of overlays.**  To lay an object on once more, or over itself, changes nothing; an
empty one changes nothing on either side.  What comes of two objects is what the upper
one says, and what the lower one says where the upper one breaks off. -/
theorem overlay_laws {lower upper : Members} (jsonLower : JsonLike (.object lower))
    (jsonUpper : JsonLike (.object upper)) :
    let whole := overlayMembers lower upper
    overlayMembers whole upper = whole ∧ overlayMembers lower lower = lower ∧
      overlayMembers lower [] = lower ∧ overlayMembers [] upper = upper ∧
        Combines (.object lower) (.object upper) (.object whole) := by
  have again : overlay (overlay (.object lower) (.object upper)) (.object upper) =
      overlay (.object lower) (.object upper) := overlay_again jsonLower jsonUpper
  have self : overlay (.object lower) (.object lower) = .object lower := overlay_self jsonLower
  have combined := combines_overlay jsonLower jsonUpper
  simp only [overlay_objects, object.injEq] at again self combined
  exact ⟨again, self, overlayMembers_nil lower,
    overlayMembers_of_empty jsonUpper.distinct_members, combined⟩

/-- Under `a` the two objects are merged: `x` is an object above and none below, `y` is
only below, `z` only above. -/
theorem overlay_laws_of_nested :
    let below : Members := [("x", .int 1), ("y", .int 2)]
    let above : Members := [("z", .int 4), ("x", .object [("w", .int 5)])]
    let lower : Members := [("a", .object below), ("b", .int 3)]
    let upper : Members := [("c", .object []), ("a", .object above)]
    let whole := overlayMembers lower upper
    (JsonLike (.object lower) ∧ JsonLike (.object upper)) ∧
      overlayMembers whole upper = whole ∧ at? ["a", "x", "w"] (.object whole) = some (.int 5) ∧
        at? ["a", "y"] (.object whole) = some (.int 2) ∧
          ∃ inside : Members, at? ["a"] (.object whole) = some (.object inside) ∧
            inside.keys = ["x", "y", "z"] := by
  intro below above lower upper whole
  have jsonBelow : JsonLike (.object below) :=
    .object (by decide) (by simp [below, JsonLike.scalar])
  have jsonDeep : JsonLike (.object [("w", .int 5)]) :=
    .object (by decide) (by simp [JsonLike.scalar])
  have jsonAbove : JsonLike (.object above) :=
    .object (by decide) (by simp [above, JsonLike.scalar, jsonDeep])
  have jsonLower : JsonLike (.object lower) :=
    .object (by decide) (by simp [lower, JsonLike.scalar, jsonBelow])
  have jsonUpper : JsonLike (.object upper) :=
    .object (by decide) (by
      simp only [upper, List.forall_mem_cons]
      exact ⟨.object Members.distinct_nil nofun, jsonAbove, nofun⟩)
  obtain ⟨again, -, -, -, combined⟩ := overlay_laws jsonLower jsonUpper
  exact ⟨⟨jsonLower, jsonUpper⟩, again, combined.fromUpper ["a", "x", "w"] _ rfl nofun,
    combined.fromLower ["a"] "y" [] _ above rfl rfl rfl,
    combined.keys ["a"] below above rfl rfl⟩

end Value

end SchemaDiagram
