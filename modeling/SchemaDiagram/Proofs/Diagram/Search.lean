/-
# SchemaDiagram.Proofs.Diagram.Search -- what a search finds

A search lower-cases its query and the names, each by itself, and a capital sigma is
lower-cased by what stands around it.  So a name that contains the query is found iff the
capital sigmas of the query are alike in both, or the lower-cased query stands elsewhere
in the lower-cased name (`search_finds_iff`).  A query without capital sigmas is found
wherever it stands; the start `ΑΣ` of `ΑΣΤΗΡ` is not (`start_of_name_not_found`).

The names that are found keep the order of the models, one for each model.
-/
import SchemaDiagram.Diagram.Search
import SchemaDiagram.Proofs.Text.Case

namespace SchemaDiagram

set_option autoImplicit false

open Text

/-- The name is found, and so highlighted and not faded. -/
def SearchResult.Shows (r : SearchResult) (name : String) : Prop :=
  name ∈ r.matches_ ∧ r.isHighlighted name = true ∧ r.isFaded name = false

instance (r : SearchResult) (name : String) : Decidable (r.Shows name) :=
  inferInstanceAs (Decidable (_ ∧ _ ∧ _))

theorem SearchResult.shows_iff {r : SearchResult} {name : String} :
    r.Shows name ↔ name ∈ r.matches_ := by
  refine ⟨fun shown => shown.1, fun found => ⟨found, ?_, ?_⟩⟩
  · rw [isHighlighted, List.contains_iff_mem]
    exact found
  · rw [isFaded, List.contains_iff_mem.2 found, Bool.not_true, Bool.and_false]

namespace Schema

variable {s : Schema} {query : String}

theorem matches_search (notBlank : allBlank query = false) :
    (s.search query).matches_ = s.modelNames.filter (nameMatches query) := by
  rw [search, notBlank]
  rfl

theorem mem_matches_search_iff (notBlank : allBlank query = false) {name : String} :
    name ∈ (s.search query).matches_ ↔
      name ∈ s.modelNames ∧ contains (lower query) (lower name) = true := by
  rw [matches_search notBlank, List.mem_filter, nameMatches]

/-- **When a search finds a name that contains its query.**  What is found are the names
of the models that are highlighted, in their order.  A name that contains the query is
found exactly if the capital sigmas of the query are alike in both, or the lower-cased
query stands in the lower-cased name at another place too, and so if the query has no
capital sigma. -/
theorem search_finds_iff (s : Schema) {query : String} (notBlank : allBlank query = false) :
    let result := s.search query
    result.matches_ = (s.models.filter fun m => result.isHighlighted m.name).map (·.name) ∧
      ∀ front back : String, front ++ query ++ back ∈ s.modelNames →
        let name := front ++ query ++ back
        (result.Shows name ↔ SigmasAlike front query back ∨
          StandsElsewhere (lower front).length (lower query) (lower name)) ∧
        ('Σ' ∉ query.toList → result.Shows name) := by
  intro result
  constructor
  · have highlighted : ∀ m ∈ s.models,
        nameMatches query m.name = result.isHighlighted m.name := by
      intro m member
      have named : m.name ∈ s.modelNames := List.mem_map_of_mem member
      rw [Bool.eq_iff_iff, SearchResult.isHighlighted, List.contains_iff_mem,
        mem_matches_search_iff notBlank, nameMatches]
      exact (and_iff_right named).symm
    rw [matches_search notBlank, modelNames, List.filter_map, Function.comp_def,
      List.filter_congr highlighted]
  · intro front back named name
    have found : result.Shows name ↔ SigmasAlike front query back ∨
        StandsElsewhere (lower front).length (lower query) (lower name) := by
      rw [SearchResult.shows_iff, mem_matches_search_iff notBlank, and_iff_right named,
        contains_lower_iff]
    exact ⟨found, fun noSigma => found.2 (.inl (sigmasAlike_of_not_mem noSigma front back))⟩

/-- A sigma at the end of a word, in the query as in the name. -/
theorem search_finds_end_of_word :
    let s := ofText "model ΟΔΟΣ ΑΒ \x7b\n\x7d" false
    allBlank "ΔΟΣ" = false ∧ "Ο" ++ "ΔΟΣ" ++ " ΑΒ" ∈ s.modelNames ∧
      (s.search "ΔΟΣ").Shows ("Ο" ++ "ΔΟΣ" ++ " ΑΒ") := by
  intro s
  have notBlank : allBlank "ΔΟΣ" = false := by decide
  have named : "Ο" ++ "ΔΟΣ" ++ " ΑΒ" ∈ s.modelNames := by decide +kernel
  have alike : SigmasAlike "Ο" "ΔΟΣ" " ΑΒ" := sigmasAlike_iff.2 (by decide +kernel)
  exact ⟨notBlank, named, ((search_finds_iff s notBlank).2 _ _ named).1.2 (.inl alike)⟩

/-- The sigma ends a word in the query `ΑΣ`, but not in the name `ΑΣΤΗΡ`. -/
theorem start_of_name_not_found :
    let s := ofText "model ΑΣΤΗΡ \x7b\n\x7d" false
    "ΑΣΤΗΡ" ∈ s.modelNames ∧ allBlank "ΑΣ" = false ∧ contains "ΑΣ" "ΑΣΤΗΡ" = true ∧
      ¬ (s.search "ΑΣ").Shows "ΑΣΤΗΡ" := by
  decide +kernel

end Schema

end SchemaDiagram
