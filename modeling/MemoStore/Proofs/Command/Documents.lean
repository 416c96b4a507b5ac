import MemoStore.Command
import MemoStore.Proofs.Files.Writing
import MemoStore.Proofs.Json.Reading
import MemoStore.Proofs.Opening.Attempts
import MemoStore.Proofs.Store.Runs

/-!
# The document that a run writes

A run opens its database and then writes the document of the variant that is configured, which
need not be the one that the database is of. `Command.documents_configured` says what is written
and when the two are the same: exactly if no mismatch was reported. Two variants have two documents
(`Document.exportText_inj`), because both formats can be read back.
-/

namespace MemoStore.Document

open MemoStore.Files (Disk Path)
open MemoStore.Schema (Variant)

/-! ## Documents of variants -/

/-- No two lists of tables have the same document. -/
theorem render_inj {format : Format} {tables tables' : List Catalog.Table}
    (same : render format tables = render format tables') : tables = tables' := by
  have readsBack : ∃ read : String → Option (List Catalog.Table),
      ∀ tables, read (render format tables) = some tables := by
    cases format with
    | json => exact ⟨readJson?, readJson?_render⟩
    | yaml =>
        refine ⟨readYaml?, fun tables => ?_⟩
        rw [readYaml?, render, Yaml.read?_render (Node.named_ofTables tables), Option.bind_some,
          Node.tables?_ofTables]
  obtain ⟨read, readsBack⟩ := readsBack
  have read := readsBack tables
  rw [same, readsBack] at read
  exact (Option.some.inj read).symm

/-- The documents of two variants differ. -/
theorem exportText_inj {variant other : Variant} {format : Format} :
    exportText variant format = exportText other format ↔ variant = other := by
  have apart : Catalog.tables .uniqueTagName ≠ Catalog.tables .basic := by decide
  constructor
  · intro same
    have tables := render_inj same
    cases variant <;> cases other
    · rfl
    · exact absurd tables apart
    · exact absurd tables.symm apart
    · rfl
  · rintro rfl
    rfl

variable {disk after : Disk} {directory : String} {variant : Variant} {format : Format}

/-- A document that was written is there. -/
theorem writeExport_ok (written : writeExport disk directory variant format = (.ok (), after)) :
    after.Holds (Path.read (exportPath directory format)) (exportText variant format) := by
  unfold writeExport at written
  split at written
  · rename_i made _
    cases result : made.write (Path.read (exportPath directory format))
        (exportText variant format) with
    | error error => simp [result, Disk.settle] at written
    | ok last =>
        simp only [result, Disk.settle, Prod.mk.injEq, true_and] at written
        exact written ▸ Disk.write_ok result
  · rename_i unmade
    exact absurd written (unmade _)

end MemoStore.Document

namespace MemoStore.Command

open MemoStore.Document (exportPath exportText)
open MemoStore.Files (Disk Path)
open MemoStore.Opening (connect mismatchReport)
open MemoStore.Schema (Variant)
open MemoStore.Store (Connection Database)

variable {settings : Settings} {disk : Disk} {crash : CrashStatus}

/-! ## Runs -/

/-- No failure has the exit status of success. -/
theorem code_ne_zero (failure : Failure) : failure.code ≠ 0 := by
  cases failure <;> simp [Failure.code]

/-- Every obstacle shows in the exit status. -/
theorem statusOf_ne_zero (obstacle : Obstacle) : statusOf crash obstacle ≠ 0 := by
  cases obstacle with
  | failure cause => exact code_ne_zero cause
  | malformedUrl fault => exact crash.failed

/-- The exit status is zero exactly if there was no obstacle. -/
theorem run_status_iff {env : Environment} :
    (run env disk crash).status = 0 ↔
      (work (Settings.ofLookup (completed env disk).get?) disk).obstacle = none := by
  simp only [run]
  cases (work (Settings.ofLookup (completed env disk).get?) disk).obstacle with
  | none => simp
  | some obstacle => simp [statusOf_ne_zero obstacle]

/-- What keeps the database from being opened ends the work. -/
theorem work_of_error {obstacle : Obstacle}
    (failed : (connect settings disk).result = .error obstacle) :
    work settings disk =
      { obstacle := some obstacle
        disk := (connect settings disk).disk
        log := (connect settings disk).log } := by
  simp only [work, failed]

/-- Work without an obstacle opened the database and wrote the document that the settings ask
for. -/
theorem work_of_none (done : (work settings disk).obstacle = none) {directory : String}
    (asked : settings.docDirectory = some directory) :
    (∃ opened, (connect settings disk).result = .ok opened) ∧
      (work settings disk).disk.Holds (Path.read (exportPath directory settings.docFormat))
        (exportText settings.variant settings.docFormat) := by
  cases result : (connect settings disk).result with
  | error obstacle =>
      rw [work_of_error result] at done
      cases done
  | ok opened =>
      refine ⟨⟨opened, rfl⟩, ?_⟩
      simp only [work, result, writeDocument, asked] at done ⊢
      split at done
      · rename_i written
        exact Document.writeExport_ok written
      · cases done

/-! ## A database that is there -/

/-- A disk with a database in one file. -/
def diskWith (db : Database) : Disk where
  entries := [(["memo.db"], .file (.database db))]

/-- The variables that ask for that file, for a variant, and for a document in JSON. -/
def asking (variant : Variant) : Environment where
  bindings :=
    [("SQLITE_PATH", "/memo.db"),
      ("TAG_NAME_UNIQUE", if variant.hasTagNameIndex then "yes" else "no"),
      ("SCHEMA_DOC_DIR", "/docs"), ("SCHEMA_DOC_FORMAT", "json")]

/-- The settings that they lead to. -/
def settingsFor (variant : Variant) : Settings where
  sqlitePath := "/memo.db"
  variant := variant
  docDirectory := some "/docs"
  docFormat := .json

/-- The variables of the run give the settings of its variant. -/
theorem ofLookup_asking (variant : Variant) (db : Database) :
    Settings.ofLookup (completed (asking variant) (diskWith db)).get? = settingsFor variant := by
  have unfiled : completed (asking variant) (diskWith db) = asking variant := rfl
  rw [unfiled]
  cases variant <;> decide +kernel

/-- The settings lead to the database on the disk, which stays as it was. -/
theorem reach_diskWith (variant : Variant) (db : Database) :
    Opening.reach (settingsFor variant) (diskWith db) =
      (.ok { connection := .toDatabase db, place := some ["memo.db"] }, diskWith db) := by
  have url : (settingsFor variant).url = "sqlite:///memo.db" := by cases variant <;> decide +kernel
  have prepared : Opening.prepare (diskWith db) "sqlite:///memo.db" = (.ok (), diskWith db) := rfl
  have target : Opening.target "sqlite:///memo.db" = .ok { file := "/memo.db" } := by
    decide +kernel
  have opened : Opening.openTarget (diskWith db) { file := "/memo.db" } =
      .ok ({ connection := .toDatabase db, place := some ["memo.db"] }, diskWith db) := rfl
  simp only [Opening.reach, url, prepared, target, opened]

/-- Nothing stands in the way of the document. -/
theorem writeDocument_diskWith (variant : Variant) (db : Database) :
    (writeDocument (settingsFor variant) (diskWith db)).obstacle = none := by
  have made : (diskWith db).makeFolders (Path.read "/docs") =
      (.ok (), { entries := [(["memo.db"], .file (.database db)), (["docs"], .folder)] }) := rfl
  simp only [writeDocument, settingsFor, Document.writeExport, made]
  generalize exportText variant .json = text
  rfl

/-- A run over a complete database ends well, whatever variant it is configured for. -/
theorem work_diskWith {db : Database} (complete : db.Complete) (variant : Variant) :
    (∃ opened, (connect (settingsFor variant) (diskWith db)).result = .ok opened ∧
        opened.connection.storage = .database db) ∧
      (work (settingsFor variant) (diskWith db)).obstacle = none := by
  have attempt := Opening.connect_complete (reach_diskWith variant db) rfl complete
  have written : (writeDocument (settingsFor variant)
      (connect (settingsFor variant) (diskWith db)).disk).obstacle = none := by
    rw [attempt]
    exact writeDocument_diskWith variant db
  have result := congrArg Opening.Attempt.result attempt
  exact ⟨⟨_, result, rfl⟩, by simpa only [work, result] using written⟩

/-! ## The document of a run -/

/-- A run that ends well and is asked for a document has written that of the configured variant. The
database that it opened may be of another one: the document is that of the database exactly if no
mismatch was reported. A run that fails to open its database writes nothing after that, and ends
with the status of its failure. -/
theorem documents_configured (env : Environment) (disk : Disk) (crash : CrashStatus) :
    let settings := Settings.ofLookup (completed env disk).get?
    let attempt := connect settings disk
    let done := run env disk crash
    (∀ directory, done.status = 0 → settings.docDirectory = some directory →
      ∃ opened detected, attempt.result = .ok opened ∧
        (∀ now, (opened.connection.handle now .detectVariant).answer = .variant detected) ∧
        done.disk.Holds (Path.read (exportPath directory settings.docFormat))
          (exportText settings.variant settings.docFormat) ∧
        (exportText settings.variant settings.docFormat =
            exportText detected settings.docFormat ↔
          ∀ found configured, mismatchReport found configured ∉ attempt.log)) ∧
      ∀ cause, attempt.result = .error (.failure cause) →
        done.status = cause.code ∧ done.disk = attempt.disk := by
  intro settings attempt done
  have ended (cause : Failure) (failed : attempt.result = .error (.failure cause)) :
      done.status = cause.code ∧ done.disk = attempt.disk := by
    have whole : work settings disk = _ := work_of_error failed
    refine ⟨?_, congrArg Work.disk whole⟩
    simp only [done, run]
    rw [whole]
    rfl
  refine ⟨fun directory status asked => ?_, ended⟩
  obtain ⟨⟨opened, result⟩, written⟩ := work_of_none (run_status_iff.mp status) asked
  obtain ⟨_, _, db, -, -, -, stored, -, -, reports⟩ := Opening.connect_ok result
  refine ⟨opened, Variant.ofIndex db.uniqueTagNames, result, Opening.answer_detectVariant stored,
    written, ?_⟩
  rw [Document.exportText_inj]
  constructor
  · rintro same found configured reported
    obtain ⟨rfl, rfl, apart⟩ := (reports found configured).mp reported
    exact apart same.symm
  · intro silent
    refine Classical.byContradiction fun apart => ?_
    exact silent _ _ ((reports _ _).mpr ⟨rfl, rfl, fun same => apart same.symm⟩)

/-- A run over a database of the variant that is configured writes the document of it. -/
theorem documents_configured_basic :
    ∃ db, (Connection.setUp {} .basic).state.storage = .database db ∧
      (run (asking .basic) (diskWith db)).disk.Holds (Path.read (exportPath "/docs" .json))
        (exportText .basic .json) := by
  have empty : Connection.On {} .empty := ⟨rfl, rfl⟩
  obtain ⟨db, on, complete, -⟩ := Connection.setUp_empty .basic empty
  have settings := ofLookup_asking .basic db
  have status : (run (asking .basic) (diskWith db)).status = 0 := by
    rw [run_status_iff, settings]
    exact (work_diskWith complete .basic).2
  obtain ⟨_, _, -, -, written, -⟩ :=
    (documents_configured (asking .basic) (diskWith db) .unwound).1 "/docs" status
      (by rw [settings]; rfl)
  rw [settings] at written
  exact ⟨db, on.storage, written⟩

/-- A run over a database without the index on tag names, with that index configured, writes what
is not the document of the database. -/
theorem documents_unconfigured :
    ∃ db, (Connection.setUp {} .basic).state.storage = .database db ∧
      let disk := diskWith db
      let settings := Settings.ofLookup (completed (asking .uniqueTagName) disk).get?
      let done := run (asking .uniqueTagName) disk
      done.status = 0 ∧
        (∃ opened, (connect settings disk).result = .ok opened ∧
          (opened.connection.handle ⟨0, 0⟩ .detectVariant).answer = .variant .basic) ∧
        ¬ done.disk.Holds (Path.read (exportPath "/docs" .json)) (exportText .basic .json) := by
  have empty : Connection.On {} .empty := ⟨rfl, rfl⟩
  obtain ⟨db, on, complete, -, index⟩ := Connection.setUp_empty .basic empty
  obtain ⟨⟨opened, result, stored⟩, done⟩ := work_diskWith complete .uniqueTagName
  refine ⟨db, on.storage, ?_, ⟨opened, ?_, ?_⟩, ?_⟩
  · rw [run_status_iff, ofLookup_asking]
    exact done
  · rw [ofLookup_asking, result]
  · rw [Opening.answer_detectVariant stored, index, Variant.ofIndex_hasTagNameIndex]
  · intro written
    have other := (work_of_none done rfl).2
    have same := Document.exportText_inj.mp
      (written.unique (by rw [run, ofLookup_asking]; exact other))
    cases same

end MemoStore.Command
