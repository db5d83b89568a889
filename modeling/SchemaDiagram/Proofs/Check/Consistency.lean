/-
# SchemaDiagram.Proofs.Check.Consistency -- what the second look reports

The check of a schema that was read reports what it leaves open, all of it, each once and
in order (`check_reports_exactly`):

* no models, if there are none;
* each name that several models have, in the order of first occurrence and with how
  many they are, and then each name that several enums have (`Repeats`);
* each relation field that refers to no model or enum, model by model.

So a schema without findings is one in which every name tells one thing and every
relation field leads somewhere.
-/
import Mathlib.Data.List.Nodup
import SchemaDiagram.Check.Consistency
import SchemaDiagram.Proofs.Check.Report

namespace SchemaDiagram

set_option autoImplicit false

variable {names : List String}

/-! ## Names in the order of first occurrence -/

theorem mem_distinct_iff {name : String} : name ∈ distinct names ↔ name ∈ names := by
  induction names with
  | nil => exact Iff.rfl
  | cons first rest ih =>
      rw [distinct, List.mem_cons, List.mem_filter, ih, List.mem_cons, bne_iff_ne]
      by_cases same : name = first
      · rw [or_iff_left fun later => later.2 same, or_iff_left_of_imp fun _ => same]
      · rw [and_iff_left same]

theorem idxOf_cons_of_mem_filter {first name : String}
    (later : name ∈ (distinct names).filter (· != first)) :
    (first :: names).idxOf name = names.idxOf name + 1 :=
  List.idxOf_cons_ne _ (bne_iff_ne.1 (List.mem_filter.1 later).2).symm

theorem distinct_ordered (names : List String) :
    (distinct names).Pairwise fun a b => names.idxOf a < names.idxOf b := by
  induction names with
  | nil => exact .nil
  | cons first rest ih =>
      rw [distinct, List.pairwise_cons]
      constructor
      · intro name later
        rw [List.idxOf_cons_self, idxOf_cons_of_mem_filter later]
        exact Nat.succ_pos _
      · refine (ih.filter _).imp_of_mem fun laterA laterB before => ?_
        rw [idxOf_cons_of_mem_filter laterA, idxOf_cons_of_mem_filter laterB]
        exact Nat.succ_lt_succ before

/-! ## Names that occur more than once -/

/-- Each name that occurs more than once, with how often it does, in the order of first
occurrence. -/
structure Repeats (names : List String) (found : List (String × Nat)) : Prop where
  mem_iff : ∀ name times, (name, times) ∈ found ↔ times = names.count name ∧ 1 < times
  ordered : found.Pairwise fun a b => names.idxOf a.1 < names.idxOf b.1

def repeated (names : List String) : List (String × Nat) :=
  ((distinct names).map fun name => (name, names.count name)).filter (1 < ·.2)

theorem repeats_repeated (names : List String) : Repeats names (repeated names) where
  mem_iff name times := by
    simp only [repeated, List.mem_filter, List.mem_map, mem_distinct_iff, Prod.mk.injEq,
      decide_eq_true_eq]
    constructor
    · rintro ⟨⟨_, -, rfl, rfl⟩, several⟩
      exact ⟨rfl, several⟩
    · rintro ⟨rfl, several⟩
      exact ⟨⟨name, List.count_pos_iff.1 (by omega), rfl, rfl⟩, several⟩
  ordered := by
    have counted : ((distinct names).map fun name => (name, names.count name)).Pairwise
        fun a b => names.idxOf a.1 < names.idxOf b.1 :=
      List.pairwise_map.2 (distinct_ordered names)
    exact counted.filter _

/-- No name occurs more than once iff each occurs once at most. -/
theorem Repeats.eq_nil_iff {found : List (String × Nat)} (all : Repeats names found) :
    found = [] ↔ names.Nodup := by
  rw [List.nodup_iff_count_le_one, List.eq_nil_iff_forall_not_mem]
  constructor
  · intro noRepeats name
    by_contra several
    exact noRepeats (name, names.count name) ((all.mem_iff _ _).2 ⟨rfl, Nat.lt_of_not_le several⟩)
  · rintro once ⟨name, times⟩ inside
    obtain ⟨rfl, several⟩ := (all.mem_iff _ _).1 inside
    exact absurd (once name) (Nat.not_le_of_lt several)

def duplicate (what section_ : String) (found : String × Nat) : Finding where
  severity := .warning
  message := "Duplicate " ++ what ++ " name: " ++ found.1
  path := section_ ++ "." ++ found.1
  context := [("count", .int found.2)]

theorem duplicateFindings_eq (what section_ : String) (names : List String) :
    duplicateFindings what section_ names = (repeated names).map (duplicate what section_) := by
  rw [repeated, ← List.filterMap_eq_map, List.filter_map, List.filterMap_map,
    List.filterMap_filter, duplicateFindings]
  refine List.filterMap_congr fun name _ => ?_
  simp only [Function.comp_apply, decide_eq_true_eq]
  rfl

namespace Schema

variable {s : Schema}

/-! ## Relation fields that lead nowhere -/

/-- The field refers to a model or an enum of the schema. -/
def LeadsSomewhere (s : Schema) (f : Field) : Prop :=
  ∃ name, f.relationTo = some name ∧ (name ∈ s.modelNames ∨ name ∈ s.enumNames)

theorem knowsTarget_iff {f : Field} : s.knowsTarget f = true ↔ s.LeadsSomewhere f := by
  rw [knowsTarget, LeadsSomewhere]
  cases f.relationTo with
  | none => simp
  | some name => simp

instance (s : Schema) (f : Field) : Decidable (s.LeadsSomewhere f) :=
  decidable_of_iff _ knowsTarget_iff

/-- Each relation field with the model that it is of. -/
def relationFields (s : Schema) : List (Model × Field) :=
  s.models.flatMap fun m => m.relationFields.map (m, ·)

theorem mem_relationFields_iff {m : Model} {f : Field} :
    (m, f) ∈ s.relationFields ↔ m ∈ s.models ∧ f ∈ m.relationFields := by
  simp only [relationFields, List.mem_flatMap, List.mem_map, Prod.mk.injEq]
  constructor
  · rintro ⟨_, member, _, inside, rfl, rfl⟩
    exact ⟨member, inside⟩
  · rintro ⟨member, inside⟩
    exact ⟨m, member, f, inside, rfl, rfl⟩

/-- The relation fields that refer to no model or enum. -/
def strays (s : Schema) : List (Model × Field) :=
  s.relationFields.filter fun place => ¬ s.LeadsSomewhere place.2

theorem strays_eq_nil_iff :
    s.strays = [] ↔ ∀ m ∈ s.models, ∀ f ∈ m.relationFields, s.LeadsSomewhere f := by
  simp only [strays, List.filter_eq_nil_iff, Prod.forall, mem_relationFields_iff,
    decide_eq_true_eq, not_not, and_imp]
  exact forall_congr' fun m => forall_comm

theorem targetFindings_eq (s : Schema) :
    s.targetFindings = s.strays.map fun place => unknownTarget place.1 place.2 := by
  rw [targetFindings, strays, relationFields, List.filter_flatMap, List.map_flatMap]
  refine congrArg (List.flatMap · s.models) (funext fun m => ?_)
  rw [List.filter_map, List.map_map]
  refine congrArg _ (List.filter_congr fun f _ => ?_)
  rw [Function.comp_apply, Bool.eq_iff_iff, Bool.not_eq_true', decide_eq_true_eq,
    ← knowsTarget_iff, Bool.not_eq_true]

/-! ## The report -/

def noModels : Finding where
  severity := .warning
  message := "No models were extracted"
  path := "models"

theorem emptyFindings_eq (s : Schema) :
    s.emptyFindings = if s.models = [] then [noModels] else [] := by
  simp only [emptyFindings, List.isEmpty_iff]
  rfl

theorem findings_check (s : Schema) :
    s.check.findings =
      (if s.models = [] then [noModels] else []) ++
      (repeated s.modelNames).map (duplicate "model" "models") ++
      (repeated s.enumNames).map (duplicate "enum" "enums") ++
      s.strays.map fun place => unknownTarget place.1 place.2 := by
  rw [check, Report.findings_ofFindings, emptyFindings_eq, duplicateFindings_eq,
    duplicateFindings_eq, targetFindings_eq]

theorem severity_of_mem_check : ∀ f ∈ s.check.findings, f.severity = .warning := by
  rw [findings_check, List.forall_mem_append, List.forall_mem_append, List.forall_mem_append]
  refine ⟨⟨⟨?_, ?_⟩, ?_⟩, ?_⟩
  · split
    · exact List.forall_mem_singleton.2 rfl
    · exact List.forall_mem_nil _
  all_goals exact List.forall_mem_map.2 fun _ _ => rfl

theorem findings_check_eq_nil_iff :
    s.check.findings = [] ↔
      s.models ≠ [] ∧ s.modelNames.Nodup ∧ s.enumNames.Nodup ∧
        ∀ m ∈ s.models, ∀ f ∈ m.relationFields, s.LeadsSomewhere f := by
  have modelsFound : (if s.models = [] then [noModels] else []) = [] ↔ s.models ≠ [] := by
    split
    · rename_i empty
      exact iff_of_false (List.cons_ne_nil _ _) (not_not.2 empty)
    · rename_i nonempty
      exact iff_of_true rfl nonempty
  simp only [findings_check, List.append_eq_nil_iff, List.map_eq_nil_iff, modelsFound,
    (repeats_repeated _).eq_nil_iff, strays_eq_nil_iff, and_assoc]

/-- **The check reports exactly what a schema leaves open.**  All findings are warnings,
so no schema is refused. -/
theorem check_reports_exactly (s : Schema) :
    s.check.valid = true ∧
      (∀ f ∈ s.check.findings, f.severity = .warning) ∧
      (∃ models enums,
        Repeats s.modelNames models ∧ Repeats s.enumNames enums ∧
        s.check.findings =
          (if s.models = [] then [noModels] else []) ++
          models.map (duplicate "model" "models") ++
          enums.map (duplicate "enum" "enums") ++
          s.strays.map fun place => unknownTarget place.1 place.2) ∧
      (s.check.findings = [] ↔
        s.models ≠ [] ∧ s.modelNames.Nodup ∧ s.enumNames.Nodup ∧
          ∀ m ∈ s.models, ∀ f ∈ m.relationFields, s.LeadsSomewhere f) := by
  have warnings : ∀ f ∈ s.check.findings, f.severity = .warning := severity_of_mem_check
  refine ⟨?_, warnings, ⟨_, _, repeats_repeated _, repeats_repeated _, findings_check s⟩,
    findings_check_eq_nil_iff⟩
  rw [check, Report.valid_ofFindings_iff]
  intro f member
  rw [warnings f (by rwa [check, Report.findings_ofFindings])]
  decide

/-- Of a field that refers to a model, one to an enum and one to neither, the last is
reported. -/
example :
    let field (name target : String) : Field :=
      { name := name, type := target, isRelation := true, relationTo := some target }
    let a : Model := { name := "A", fields := [field "b" "A", field "c" "E", field "d" "B"] }
    ({ models := [a, a], enums := [{ name := "E" }] } : Schema).check.warnings =
      ["Duplicate model name: A", "Unknown relation target: A.d -> B",
        "Unknown relation target: A.d -> B"] := by
  decide +kernel

end Schema

end SchemaDiagram
