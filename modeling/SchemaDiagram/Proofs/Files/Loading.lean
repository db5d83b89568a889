/-
# SchemaDiagram.Proofs.Files.Loading -- which failures of a loader are reported

A failure that is reported is about a schema file, a settings file or a document
(`Failure.subject?`), and each loader has one subject.  Whatever else it fails with
ends a command.

A loader reports all failures of its store, of the notation of a file and of its
contents.  It does not report bytes that are no text (`undecodable_bytes_not_reported`),
whose decoding nobody guards, nor what `loaders_report_iff` lists beside them: a null
character in the path, a settings file whose name cannot be looked up for its length,
values that the notation allows and the reader refuses, and details of relations that
the shape of documents allows and the decoder refuses.
-/
import SchemaDiagram.Files.Load
import SchemaDiagram.Proofs.Diagram.Readability
import SchemaDiagram.Proofs.Files.Store

namespace SchemaDiagram

set_option autoImplicit false

/-! ## Reported failures -/

namespace Failure

inductive Subject where
  | schema
  | settings
  | document
deriving DecidableEq, Repr

/-- What a failure is about; none if it is not reported. -/
def subject? : Failure → Option Subject
  | schemaSuffix _ | schemaUnreadable .. | schemaUnwritable .. => some .schema
  | settingsMissing _ | settingsNotFile _ | settingsUnreadable .. | settingsSyntax
  | settingsNotMapping | settingsInvalid _ => some .settings
  | documentUnreadable .. | documentUnwritable .. | documentSyntax _
  | documentMisshapen _ => some .document
  | detailsInvalid _ | notText | store _ | nullCharacter | badLiteral _ | nesting _
  | keyNotText _ => none

/-- The failure is reported as one about `subject`. -/
def IsAbout (subject : Subject) (f : Failure) : Prop :=
  f.subject? = some subject

theorem isAbout_ofFault_iff {subject : Subject} {wrap : StoreFault → Failure} {fault : StoreFault}
    (about : (wrap fault).IsAbout subject) :
    (ofFault wrap fault).IsAbout subject ↔ fault.cause ≠ .nullCharacter := by
  rw [ofFault]
  split
  · rename_i null
    simp [null, IsAbout, subject?]
  · rename_i other
    exact iff_of_true about other

theorem isAbout_ofReadFault_iff {subject : Subject} {malformed : Failure} {fault : ReadFault}
    (about : malformed.IsAbout subject) :
    (ofReadFault malformed fault).IsAbout subject ↔ fault = .malformed := by
  cases fault <;> simp [ofReadFault, about]
  all_goals simp [IsAbout, subject?]

theorem isAbout_ofDocumentError_iff {e : DocumentError} :
    (ofDocumentError e).IsAbout .document ↔ ∃ messages, e = .misshapen messages := by
  cases e <;> simp [ofDocumentError, IsAbout, subject?]

end Failure

/-- Whatever goes wrong is reported as a failure about `subject`. -/
def Reports {α : Type} (subject : Failure.Subject) (x : Except Failure α) : Prop :=
  FailsWith (Failure.IsAbout subject) x

/-! ## Files -/

namespace Store

variable {s : Store} {p : Path}

/-- Reading a path fails for a null character only if there is one in it. -/
theorem failsWith_read_iff :
    FailsWith (·.cause ≠ .nullCharacter) (s.read p) ↔ hasNull p.text = false := by
  rw [← Bool.not_eq_true, ← find_eq_null_iff (s := s), read]
  cases s.find p with
  | ok e => cases e <;> simp [failsWith_ok, failsWith_error_iff]
  | error cause => simp [failsWith_error_iff]

/-- What the file at the path holds, if there is one, is a text with that property. -/
def HoldsText (s : Store) (p : Path) (P : String → Prop) : Prop :=
  ∀ content, s.find p = .ok (.file content) → ∃ text, textOfBytes? content = some text ∧ P text

end Store

/-! ## Loaders -/

section Loaders

variable {s : Store} {path : String}

theorem reports_ok {α : Type} (subject : Failure.Subject) (a : α) : Reports subject (.ok a) :=
  failsWith_ok a

theorem not_reports_notText {α : Type} (subject : Failure.Subject) :
    ¬ Reports subject (.error .notText : Except Failure α) := by
  rw [Reports, failsWith_error_iff]
  simp [Failure.IsAbout, Failure.subject?]

/-- What a loader reports that reads a file and goes on with its content. -/
theorem reports_read_bind_iff {α : Type} {p : Path} {subject : Failure.Subject}
    {wrap : StoreFault → Failure} {next : ByteArray → Except Failure α}
    (about : ∀ fault, (wrap fault).IsAbout subject) :
    Reports subject ((s.read p).mapError (.ofFault wrap) >>= next) ↔
      hasNull p.text = false ∧
        ∀ content, s.find p = .ok (.file content) → Reports subject (next content) := by
  have read : FailsWith (fun fault => (Failure.ofFault wrap fault).IsAbout subject) (s.read p) ↔
      hasNull p.text = false := by
    simp only [Failure.isAbout_ofFault_iff (about _)]
    exact Store.failsWith_read_iff
  simp only [Reports, failsWith_bind_iff, failsWith_mapError_iff, mapError_eq_ok_iff,
    Store.read_eq_ok_iff]
  exact and_congr_left fun _ => read

theorem reports_loadSchemaText_iff :
    let p := Path.ofText path
    Reports .schema (loadSchemaText s path) ↔
      (hasSuffix schemaSuffixes p = true → hasNull p.text = false ∧
        ∀ content, s.find p = .ok (.file content) →
          isCutMark content = true ∨ (textOfBytes? content).isSome) := by
  intro p
  rw [loadSchemaText]
  dsimp only
  split
  · rename_i other
    have suffix : ¬ hasSuffix schemaSuffixes p = true := by simpa using other
    exact iff_of_true (failsWith_error_iff.2 rfl) fun known => absurd known suffix
  · rename_i known
    have suffix : hasSuffix schemaSuffixes p = true := by simpa using known
    have about (fault : StoreFault) :
        (Failure.schemaUnreadable p.text fault).IsAbout .schema := rfl
    simp only [suffix, true_imp_iff]
    refine (reports_read_bind_iff about).trans (and_congr_right fun _ =>
      forall_congr' fun content => imp_congr_right fun _ => ?_)
    cases isCutMark content with
    | true => exact iff_of_true (reports_ok _ _) (.inl rfl)
    | false =>
        cases textOfBytes? content with
        | some text => exact iff_of_true (reports_ok _ _) (.inr rfl)
        | none => exact iff_of_false (not_reports_notText _) (by simp)

theorem reports_ofValue (v : Value) : Reports .settings (Settings.ofValue v) := by
  rw [Settings.ofValue]
  split
  · exact failsWith_mapError fun _ => rfl
  · exact failsWith_mapError fun _ => rfl
  · exact failsWith_error_iff.2 rfl

theorem reports_ofYaml_iff {text : String} :
    Reports .settings (Settings.ofYaml text) ↔ FailsWith (· = .malformed) (Yaml.read text) := by
  rw [Settings.ofYaml, Settings.ofYamlWith, ← Yaml.read]
  cases Yaml.read text with
  | ok v => exact iff_of_true (reports_ofValue v) (failsWith_ok v)
  | error fault =>
      rw [Reports, failsWith_error_iff, failsWith_error_iff]
      exact Failure.isAbout_ofReadFault_iff rfl

theorem reports_loadSettings_iff :
    let p := Path.ofText path
    Reports .settings (loadSettings s path) ↔
      s.find p ≠ .error .nameTooLong ∧
        s.HoldsText p fun text => FailsWith (· = .malformed) (Yaml.read text) := by
  intro p
  rw [loadSettings, loadSettingsWith, Store.HoldsText]
  split
  · rename_i long
    have unreported : ¬ Reports .settings
        (.error (.store { cause := .nameTooLong, path := p.text }) : Except Failure Settings) := by
      rw [Reports, failsWith_error_iff]
      simp [Failure.IsAbout, Failure.subject?]
    exact iff_of_false unreported fun ⟨short, _⟩ => short long
  · rename_i cause other found
    rw [found]
    exact iff_of_true (failsWith_error_iff.2 rfl) ⟨by simpa using other, by simp⟩
  · rename_i found
    rw [found]
    exact iff_of_true (failsWith_error_iff.2 rfl) (by simp)
  · rename_i content found
    have found : s.find p = .ok (.file content) := found
    simp only [found, ne_eq, reduceCtorEq, not_false_eq_true, true_and, Except.ok.injEq,
      Entry.file.injEq, forall_eq']
    cases textOfBytes? content with
    | some text =>
        simp only [Option.some.injEq, exists_eq_left']
        exact reports_ofYaml_iff
    | none => exact iff_of_false (not_reports_notText _) (by simp)

/-- The value that a document file writes, by its suffix. -/
def documentIn (p : Path) (text : String) : Except ReadFault Value :=
  if hasSuffix yamlSuffixes p then Yaml.read text else Json.read text

theorem reports_ofDocument_iff {document : Value} {grid : Grid} :
    Reports .document ((Diagram.ofDocument document grid).mapError .ofDocumentError) ↔
      ((checkDocument document).valid = true → Diagram.DetailsReadable document) := by
  rw [Reports, failsWith_mapError_iff]
  simp only [Failure.isAbout_ofDocumentError_iff]
  by_cases valid : (checkDocument document).valid = true
  · -- No document of the right shape is called misshapen, so it is read or not reported.
    have never : FailsWith (fun e => ¬ ∃ messages, e = .misshapen messages)
        (Diagram.ofDocument document grid) := fun e failed ⟨messages, same⟩ =>
      Diagram.refuses_iff.1 ⟨messages, same ▸ failed⟩ valid
    rw [never.failsWith_iff_succeeds, Diagram.succeeds_ofDocument_iff]
    simp [valid]
  · obtain ⟨messages, refused⟩ := Diagram.refuses_iff.2 valid
    rw [refused, failsWith_error_iff]
    simp [valid]

theorem reports_loadDiagram_iff {grid : Grid} :
    let p := Path.ofText path
    Reports .document (loadDiagram s path grid) ↔
      hasNull p.text = false ∧ s.HoldsText p fun text =>
        FailsWith (· = .malformed) (documentIn p text) ∧
          ∀ document, documentIn p text = .ok document →
            (checkDocument document).valid = true → Diagram.DetailsReadable document := by
  intro p
  have about (fault : StoreFault) :
      (Failure.documentUnreadable p.text fault).IsAbout .document := rfl
  have syntaxIsAbout : (Failure.documentSyntax p.text).IsAbout .document := rfl
  rw [loadDiagram, loadDiagramWith, Store.HoldsText]
  refine (reports_read_bind_iff about).trans (and_congr_right fun _ =>
    forall_congr' fun content => imp_congr_right fun _ => ?_)
  cases textOfBytes? content with
  | none => exact iff_of_false (not_reports_notText _) (by simp)
  | some text =>
      simp only [Option.some.injEq, exists_eq_left']
      have read : FailsWith (Failure.IsAbout .document)
          ((documentIn p text).mapError (.ofReadFault (.documentSyntax p.text))) ↔
          FailsWith (· = .malformed) (documentIn p text) := by
        simp only [failsWith_mapError_iff, Failure.isAbout_ofReadFault_iff syntaxIsAbout]
      change FailsWith _ ((documentIn p text).mapError _ >>= _) ↔ _
      rw [failsWith_bind_iff, read]
      simp only [mapError_eq_ok_iff]
      exact and_congr_right fun _ => forall_congr' fun document => imp_congr_right fun _ =>
        reports_ofDocument_iff

/-- **A loader reports whatever fails** exactly if no step fails that it leaves
unguarded: the path as the store takes it, the decoding of the bytes that it finds, the
values that the notation allows and the reader does not, and the details of relations. -/
theorem loaders_report_iff (s : Store) (path : String) (grid : Grid) :
    let p := Path.ofText path
    (Reports .schema (loadSchemaText s path) ↔
        (hasSuffix schemaSuffixes p = true → hasNull p.text = false ∧
          ∀ content, s.find p = .ok (.file content) →
            isCutMark content = true ∨ (textOfBytes? content).isSome)) ∧
      (Reports .settings (loadSettings s path) ↔
        s.find p ≠ .error .nameTooLong ∧
          s.HoldsText p fun text => FailsWith (· = .malformed) (Yaml.read text)) ∧
      (Reports .document (loadDiagram s path grid) ↔
        hasNull p.text = false ∧ s.HoldsText p fun text =>
          FailsWith (· = .malformed) (documentIn p text) ∧
            ∀ document, documentIn p text = .ok document →
              (checkDocument document).valid = true → Diagram.DetailsReadable document) :=
  ⟨reports_loadSchemaText_iff, reports_loadSettings_iff, reports_loadDiagram_iff⟩

/-- Bytes that are no text end every loader with the same failure. -/
theorem loaders_of_undecodable {content : ByteArray} (grid : Grid)
    (found : s.find (Path.ofText path) = .ok (.file content))
    (undecoded : textOfBytes? content = none) :
    (hasSuffix schemaSuffixes (Path.ofText path) = true → isCutMark content = false →
        loadSchemaText s path = .error .notText) ∧
      loadSettings s path = .error .notText ∧ loadDiagram s path grid = .error .notText := by
  have read : s.read (Path.ofText path) = .ok content := Store.read_eq_ok_iff.2 found
  refine ⟨fun suffix notCut => ?_, ?_, ?_⟩
  · simp [loadSchemaText, suffix, read, notCut, undecoded, throw, throwThe, MonadExceptOf.throw,
      bind, Except.bind]
  · simp [loadSettings, loadSettingsWith, found, undecoded, throw, throwThe, MonadExceptOf.throw]
  · simp [loadDiagram, loadDiagramWith, read, undecoded, throw, throwThe, MonadExceptOf.throw, bind,
      Except.bind]

/-- A byte that starts no character, in a file for each loader. -/
theorem undecodable_bytes_not_reported :
    let undecodable : Entry := .file ⟨#[0xFF]⟩
    let s : Store :=
      { entries := [(["a.prisma"], undecodable), (["a.yaml"], undecodable),
          (["a.json"], undecodable)] }
    loadSchemaText s "a.prisma" = .error .notText ∧
      loadSettings s "a.yaml" = .error .notText ∧
      loadDiagram s "a.json" .standard = .error .notText ∧
      ¬ Reports .schema (loadSchemaText s "a.prisma") ∧
      ¬ Reports .settings (loadSettings s "a.yaml") ∧
      ¬ Reports .document (loadDiagram s "a.json" .standard) := by
  intro undecodable s
  have undecoded : textOfBytes? ⟨#[0xFF]⟩ = none := by decide +kernel
  have found : s.find (Path.ofText "a.prisma") = .ok undecodable ∧
      s.find (Path.ofText "a.yaml") = .ok undecodable ∧
      s.find (Path.ofText "a.json") = .ok undecodable := by decide +kernel
  obtain ⟨schemaFound, settingsFound, documentFound⟩ := found
  have schema : loadSchemaText s "a.prisma" = .error .notText :=
    (loaders_of_undecodable .standard schemaFound undecoded).1 (by decide +kernel)
      (by decide +kernel)
  have settings : loadSettings s "a.yaml" = .error .notText :=
    (loaders_of_undecodable .standard settingsFound undecoded).2.1
  have document : loadDiagram s "a.json" .standard = .error .notText :=
    (loaders_of_undecodable .standard documentFound undecoded).2.2
  rw [schema, settings, document]
  exact ⟨rfl, rfl, rfl, not_reports_notText _, not_reports_notText _, not_reports_notText _⟩

end Loaders

end SchemaDiagram
