/-
# SchemaDiagram.Proofs.Settings.Projection -- settings from partial data

Preamble, reading and grid are records, and so are the settings that hold them.  Every law
of records is thus one of the settings that data gives over the defaults
(`Settings.ofMembers_eq`): they are read back from what they write, also from on top of
other data; what is not given has its default; and what is not known does not matter
(`Settings.ofMembers_projects`).
-/
import SchemaDiagram.Proofs.Data.Codec
import SchemaDiagram.Settings.Basic

namespace SchemaDiagram

set_option autoImplicit false

open Value

/-! ## Sections -/

def Preamble.record : Record Preamble where
  name := "EmitterConfig"
  slots :=
    let d : Preamble := {}
    [⟨_, "generator_name", .text, d.generatorName, (·.generatorName)⟩,
      ⟨_, "generator_provider", .text, d.generatorProvider, (·.generatorProvider)⟩,
      ⟨_, "datasource_name", .text, d.datasourceName, (·.datasourceName)⟩,
      ⟨_, "datasource_provider", .text, d.datasourceProvider, (·.datasourceProvider)⟩,
      ⟨_, "url_env", .text, d.urlEnv, (·.urlEnv)⟩]
  write := toMembers
  read := ofMembers
  nonempty := List.cons_ne_nil _ _
  distinct := by decide
  writes p := rfl
  reads members p := by
    obtain ⟨a, b, c, d, e⟩ := p
    simp [ofMembers, Checked.apply_eq_ok_iff, Slot.take, and_assoc]
  alike members members' same := by
    simp only [List.forall_mem_cons, Slot.take, Codec.text_read] at same
    simp only [ofMembers, same]

def Reading.record : Record Reading where
  name := "ParserConfig"
  slots :=
    let d : Reading := {}
    [⟨_, "resolve_reverse_fields", .boolean, d.resolveBackFields, (·.resolveBackFields)⟩,
      ⟨_, "validate_first", .boolean, d.validateFirst, (·.validateFirst)⟩]
  write := toMembers
  read := ofMembers
  nonempty := List.cons_ne_nil _ _
  distinct := by decide
  writes r := rfl
  reads members r := by
    obtain ⟨a, b⟩ := r
    simp [ofMembers, Checked.apply_eq_ok_iff, Slot.take, -Bool.exists_bool]
  alike members members' same := by
    simp only [List.forall_mem_cons, Slot.take, Codec.boolean_read] at same
    simp only [ofMembers, same]

/-- A length of the grid, which is never negative. -/
def Grid.lengthOf (n : Nat) : { n : Nat // 0 ≤ n } := ⟨n, Nat.zero_le n⟩

theorem Grid.ofMeasures_eq_iff {columns : { n : Nat // 1 ≤ n }}
    {columnWidth rowHeight margin : { n : Nat // 0 ≤ n }} {g : Grid} :
    ofMeasures columns columnWidth rowHeight margin = g ↔
      columns = ⟨g.columns, g.columns_pos⟩ ∧ columnWidth = lengthOf g.columnWidth ∧
        rowHeight = lengthOf g.rowHeight ∧ margin = lengthOf g.margin := by
  obtain ⟨a, b, c, d, pos⟩ := g
  simp [ofMeasures, lengthOf, Subtype.ext_iff]

def Grid.record : Record Grid where
  name := "LayoutConfig"
  slots :=
    let d := Grid.standard
    [⟨_, "columns", .atLeast 1, ⟨d.columns, d.columns_pos⟩, fun g => ⟨g.columns, g.columns_pos⟩⟩,
      ⟨_, "column_width", .atLeast 0, lengthOf d.columnWidth, (lengthOf ·.columnWidth)⟩,
      ⟨_, "row_height", .atLeast 0, lengthOf d.rowHeight, (lengthOf ·.rowHeight)⟩,
      ⟨_, "margin", .atLeast 0, lengthOf d.margin, (lengthOf ·.margin)⟩]
  write := toMembers
  read := ofMembers
  nonempty := List.cons_ne_nil _ _
  distinct := by decide
  writes g := rfl
  reads members g := by
    simp [ofMembers, Checked.apply_eq_ok_iff, Slot.take, and_assoc, ofMeasures_eq_iff,
      lengthOf, -Subtype.exists]
  alike members members' same := by
    simp only [List.forall_mem_cons, Slot.take, Codec.atLeast_read, lengthOf] at same
    simp only [ofMembers, same]

namespace Settings

def record : Record Settings where
  name := "ProjectConfig"
  slots :=
    let d : Settings := {}
    [⟨_, "name", .text, d.name, (·.name)⟩,
      ⟨_, "emitter", Preamble.record.codec, d.preamble, (·.preamble)⟩,
      ⟨_, "parser", Reading.record.codec, d.reading, (·.reading)⟩,
      ⟨_, "layout", Grid.record.codec, d.grid, (·.grid)⟩]
  write := toMembers
  read := read
  nonempty := List.cons_ne_nil _ _
  distinct := by decide
  writes s := rfl
  reads members s := by
    obtain ⟨a, b, c, d⟩ := s
    simp [Settings.read, Checked.apply_eq_ok_iff, Slot.take, and_assoc, Preamble.record,
      Reading.record, Grid.record]
  alike members members' same := by
    simp only [List.forall_mem_cons, Slot.take, Codec.text_read, Record.codec_read] at same
    simp only [Preamble.record, Reading.record, Grid.record] at same
    simp only [Settings.read, same]

/-! ## The laws -/

/-- What `data` has of the known settings. -/
def known (data : Members) : Members :=
  membersWithin data (toMembers {})

/-- The settings that data gives are the record read over its defaults. -/
theorem ofMembers_eq (data : Members) :
    ofMembers data = record.codec.readOver {} (.object data) := by
  rw [Codec.readOver, Record.codec_read]
  exact congrArg (Checked.section_ _ _) (overlay_objects _ _).symm

/-- What is not known does not matter, be it to settings or to problems. -/
theorem ofMembers_known {data : Members} (keyed : (Value.object data).WellKeyed) :
    ofMembers (known data) = ofMembers data := by
  rw [ofMembers_eq, ofMembers_eq]
  exact record.codec.ignores {} (.object data) keyed

/-- **Settings are a projection.**  Settings read from data are read again from what they
write, alone or over any other data.  What the data leaves open has its default, and only
what it has of the known settings counts. -/
theorem ofMembers_projects {data : Members} {s : Settings}
    (keyed : (Value.object data).WellKeyed) (accepted : ofMembers data = .ok s) :
    ofMembers s.toMembers = .ok s ∧
      (∀ path v, at? path (.object (toMembers {})) = some (.scalar v) →
        at? path (.object data) = none → at? path (.object s.toMembers) = some (.scalar v)) ∧
      (∀ other : Members, (Value.object other).WellKeyed → known other = known data →
        ofMembers other = .ok s) ∧
      ∀ below : Members, (Value.object below).WellKeyed →
        ofMembers (overlayMembers below s.toMembers) = .ok s := by
  refine ⟨?_, ?_, fun other keyedOther same => ?_, fun below keyedBelow => ?_⟩
  · rw [ofMembers_eq]
    exact record.codec.readOver_write {} s
  · rw [ofMembers_eq] at accepted
    exact record.codec.shows s {} (.object data) keyed accepted
  · rw [← ofMembers_known keyedOther, same, ofMembers_known keyed, accepted]
  · rw [ofMembers_eq, ← overlay_objects]
    exact record.codec.readOver_overlay_write {} s keyedBelow

/-- Seven columns are given as a text, and two members are unknown. -/
theorem ofMembers_projects_of_partial :
    let data : Members := [("layout", .object [("columns", .text "7"), ("depth", .int 1)]),
      ("extra", .null), ("emitter", .object [("url_env", .text "SHOP_DB")])]
    let s : Settings := { preamble := { urlEnv := "SHOP_DB" }, grid := { columns := 7 } }
    let other : Members := [("emitter", .object [("url_env", .text "SHOP_DB"), ("x", .null)]),
      ("layout", .object [("columns", .text "7")])]
    let below : Members := [("name", .text "shop"), ("parser", .list [])]
    ((Value.object data).WellKeyed ∧ ofMembers data = .ok s) ∧ ofMembers s.toMembers = .ok s ∧
      at? ["layout", "margin"] (.object s.toMembers) = some (.int 100) ∧
        ofMembers other = .ok s ∧ ofMembers (overlayMembers below s.toMembers) = .ok s := by
  intro data s other below
  have keyed : (Value.object data).WellKeyed := JsonLike.wellKeyed <|
    .object (by decide) (by
      simp only [data, List.forall_mem_cons]
      exact ⟨.object (by decide) (by simp [JsonLike.scalar]), .scalar _,
        .object (by decide) (by simp [JsonLike.scalar]), nofun⟩)
  have keyedOther : (Value.object other).WellKeyed := JsonLike.wellKeyed <|
    .object (by decide) (by
      simp only [other, List.forall_mem_cons]
      exact ⟨.object (by decide) (by simp [JsonLike.scalar]),
        .object (by decide) (by simp [JsonLike.scalar]), nofun⟩)
  have keyedBelow : (Value.object below).WellKeyed := JsonLike.wellKeyed <|
    .object (by decide) (by
      simp only [below, List.forall_mem_cons]
      exact ⟨.scalar _, .list nofun, nofun⟩)
  have accepted : ofMembers data = .ok s := rfl
  obtain ⟨again, defaults, unknown, onTop⟩ := ofMembers_projects keyed accepted
  exact ⟨⟨keyed, accepted⟩, again, defaults ["layout", "margin"] _ rfl rfl,
    unknown other keyedOther rfl, onTop below keyedBelow⟩

end Settings

end SchemaDiagram
