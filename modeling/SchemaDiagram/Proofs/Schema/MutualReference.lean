/-
# SchemaDiagram.Proofs.Schema.MutualReference -- fields that refer to each other

The look-up takes the first field that refers back.  If all such fields have one name,
it is that name, whatever the order of the models and of their fields
(`targetField_of_only`).

Two models of which each has one field for the other therefore find each other's field,
and so do the two fields of a model for itself, as a field is not its own counterpart
(`resolve_mutual`).  The look-up reads ends and source field only, so looking up again
changes nothing (`resolve_resolve`).
-/
import Mathlib.Data.List.Nodup
import SchemaDiagram.Proofs.Schema.BackReference
import SchemaDiagram.Proofs.Schema.Drawing

namespace SchemaDiagram

set_option autoImplicit false

/-! ## The fields for a model -/

/-- The relation fields that refer to the model of that name. -/
def Model.fieldsTo (m : Model) (target : String) : List Field :=
  m.relationFields.filter (·.relationTo == some target)

theorem Model.mem_fieldsTo_iff {m : Model} {target : String} {f : Field} :
    f ∈ m.fieldsTo target ↔
      f ∈ m.fields ∧ f.isRelation = true ∧ f.relationTo = some target := by
  rw [fieldsTo, relationFields, List.mem_filter, List.mem_filter, beq_iff_eq, and_assoc]

namespace Relation

variable {r : Relation} {models : List Model} {a b : Model} {x y : Field} {name : String}

theorem link_eq_mk_iff {source target field : String} :
    r.link = (source, target, field) ↔
      r.source = source ∧ r.target = target ∧ r.sourceField = field := by
  rw [link, Prod.mk.injEq, Prod.mk.injEq]

theorem referredBackBy_iff :
    r.ReferredBackBy models name ↔ ∃ m ∈ models, m.name = r.target ∧
      ∃ f ∈ m.fieldsTo r.source, (r.source = r.target → f.name ≠ r.sourceField) ∧
        f.name = name := by
  simp [ReferredBackBy, Model.mem_fieldsTo_iff, and_assoc]

/-! ## Looking up one relation -/

/-- If only fields of one name refer back, that name is found. -/
theorem targetField_of_only (back : r.ReferredBackBy models name)
    (only : ∀ other, r.ReferredBackBy models other → other = name) :
    (r.resolve models).targetField = some name := by
  have looked : (r.resolve models).targetField = (r.backField? models).or r.targetField := rfl
  cases found : r.backField? models with
  | none => exact absurd back (backField?_eq_none_iff.1 found name)
  | some other =>
      rw [looked, found, Option.some_or, only other (referredBackBy_of_backField? found)]

/-- Between two models, the one field that refers back is found. -/
theorem targetField_of_pair (distinct : (models.map (·.name)).Nodup) (here : a ∈ models)
    (there : b ∈ models) (apart : a ≠ b) (back : b.fieldsTo a.name = [y])
    (linked : r.link = (a.name, b.name, x.name)) :
    (r.resolve models).targetField = some y.name := by
  obtain ⟨source, target, -⟩ := link_eq_mk_iff.1 linked
  have sameName : ∀ m ∈ models, ∀ n ∈ models, m.name = n.name → m = n := fun m inside n inside' =>
    List.inj_on_of_nodup_map distinct inside inside'
  have notSelf : r.source ≠ r.target := by
    rw [source, target]
    exact fun same => apart (sameName a here b there same)
  refine targetField_of_only (referredBackBy_iff.2 ⟨b, there, target.symm, y, ?_, ?_, rfl⟩) ?_
  · rw [source, back]
    exact List.mem_singleton_self y
  · exact fun self => absurd self notSelf
  · intro other referred
    obtain ⟨m, inside, named, f, refers, -, rfl⟩ := referredBackBy_iff.1 referred
    obtain rfl := sameName m inside b there (named.trans target)
    rw [source, back, List.mem_singleton] at refers
    rw [refers]

/-- From a model to itself, the other one of two fields is found. -/
theorem targetField_of_self (here : a ∈ models) (back : y ∈ a.fieldsTo a.name)
    (apart : y.name ≠ x.name)
    (only : ∀ m ∈ models, m.name = a.name → ∀ f ∈ m.fieldsTo a.name,
      f.name = x.name ∨ f.name = y.name)
    (linked : r.link = (a.name, a.name, x.name)) :
    (r.resolve models).targetField = some y.name := by
  obtain ⟨source, target, field⟩ := link_eq_mk_iff.1 linked
  refine targetField_of_only (referredBackBy_iff.2 ⟨a, here, target.symm, y, ?_, ?_, rfl⟩) ?_
  · rwa [source]
  · exact fun _ => field ▸ apart
  · intro other referred
    obtain ⟨m, inside, named, f, refers, counterpart, rfl⟩ := referredBackBy_iff.1 referred
    rw [source] at refers
    -- A field of the name of the source field is passed over.
    refine (only m inside (named.trans target) f refers).resolve_left fun same => ?_
    exact counterpart (source.trans target.symm) (same.trans field.symm)

theorem resolve_resolve (models : List Model) (r : Relation) :
    (r.resolve models).resolve models = r.resolve models := by
  have again : (r.resolve models).backField? models = r.backField? models := rfl
  rw [resolve, again, resolve]
  cases r.backField? models <;> rfl

/-! ## Looking up all relations -/

theorem targetField_of_mem_map {link : String × String × String} {target : Option String}
    {relations : List Relation}
    (each : ∀ r : Relation, r.link = link → (r.resolve models).targetField = target) :
    ∀ r ∈ relations.map (resolve models), r.link = link → r.targetField = target := by
  intro r member linked
  obtain ⟨q, -, rfl⟩ := List.mem_map.1 member
  exact each q linked

/-- **What refers back is found from either side.**  Relations stay in place and differ in
their target fields alone, and looking up again changes nothing.  If two models have one
field for each other, each of the fields is found for the other one, and so are the two
fields of a model for itself, unless a model of the same name has further ones. -/
theorem resolve_mutual (models : List Model) (relations : List Relation) :
    let resolved := relations.map (resolve models)
    List.Forall₂ (fun r r' => r' = { r with targetField := r'.targetField }) relations resolved ∧
    resolved.map (resolve models) = resolved ∧
    ((models.map (·.name)).Nodup → ∀ a ∈ models, ∀ b ∈ models, a ≠ b →
      ∀ x y : Field, a.fieldsTo b.name = [x] → b.fieldsTo a.name = [y] →
        (∀ r ∈ resolved, r.link = (a.name, b.name, x.name) → r.targetField = some y.name) ∧
        ∀ r ∈ resolved, r.link = (b.name, a.name, y.name) → r.targetField = some x.name) ∧
    ∀ a ∈ models, ∀ x y : Field, a.fieldsTo a.name = [x, y] → x.name ≠ y.name →
      (∀ m ∈ models, m.name = a.name → ∀ f ∈ m.fieldsTo a.name,
        f.name = x.name ∨ f.name = y.name) →
        (∀ r ∈ resolved, r.link = (a.name, a.name, x.name) → r.targetField = some y.name) ∧
        ∀ r ∈ resolved, r.link = (a.name, a.name, y.name) → r.targetField = some x.name := by
  refine ⟨?_, ?_, ?_, ?_⟩
  · rw [List.forall₂_map_right_iff, List.forall₂_same]
    exact fun _ _ => rfl
  · rw [List.map_map]
    exact List.map_congr_left fun r _ => resolve_resolve models r
  · intro distinct a here b there apart x y toB toA
    exact ⟨targetField_of_mem_map fun _ => targetField_of_pair distinct here there apart toA,
      targetField_of_mem_map fun _ => targetField_of_pair distinct there here apart.symm toB⟩
  · intro a here x y both apart only
    have members : x ∈ a.fieldsTo a.name ∧ y ∈ a.fieldsTo a.name := by simp [both]
    have only' : ∀ m ∈ models, m.name = a.name → ∀ f ∈ m.fieldsTo a.name,
        f.name = y.name ∨ f.name = x.name :=
      fun m inside named f refers => (only m inside named f refers).symm
    exact ⟨targetField_of_mem_map fun _ => targetField_of_self here members.2 apart.symm only,
      targetField_of_mem_map fun _ => targetField_of_self here members.1 apart only'⟩

/-- Two models whose fields refer to each other, and one of two fields for itself.  The
fields for each other are found from both sides, and so are the other two. -/
theorem resolve_mutual_blog :
    let post : Model := ⟨"Post", [⟨"id", "Int", [], false, none⟩,
      ⟨"author", "User", [], true, some "User"⟩]⟩
    let user : Model := ⟨"User", [⟨"posts", "Post[]", [], true, some "Post"⟩,
      ⟨"boss", "User?", [], true, some "User"⟩, ⟨"staff", "User[]", [], true, some "User"⟩]⟩
    let relation (source target field : String) : Relation :=
      { source, target, sourceField := field, cardinality := .oneToOne }
    let resolved := [relation "Post" "User" "author", relation "User" "Post" "posts",
      relation "User" "User" "boss", relation "User" "User" "staff"].map (resolve [post, user])
    resolved.map (·.targetField) = [some "posts", some "author", some "staff", some "boss"] := by
  intro post user relation resolved
  obtain ⟨-, -, pair, self⟩ := resolve_mutual [post, user] [relation "Post" "User" "author",
    relation "User" "Post" "posts", relation "User" "User" "boss", relation "User" "User" "staff"]
  obtain ⟨author, posts⟩ := pair (by decide) post (by decide) user (by decide) (by decide)
    ⟨"author", "User", [], true, some "User"⟩ ⟨"posts", "Post[]", [], true, some "Post"⟩
    (by decide) (by decide)
  obtain ⟨boss, staff⟩ := self user (by decide) ⟨"boss", "User?", [], true, some "User"⟩
    ⟨"staff", "User[]", [], true, some "User"⟩ (by decide) (by decide) (by decide)
  have first := author ((relation "Post" "User" "author").resolve [post, user]) (by simp) rfl
  have second := posts ((relation "User" "Post" "posts").resolve [post, user]) (by simp) rfl
  have third := boss ((relation "User" "User" "boss").resolve [post, user]) (by simp) rfl
  have fourth := staff ((relation "User" "User" "staff").resolve [post, user]) (by simp) rfl
  simp only [resolved, List.map_cons, List.map_nil, first, second, third, fourth]

end Relation

end SchemaDiagram
