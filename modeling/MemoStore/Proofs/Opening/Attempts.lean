import MemoStore.Opening
import MemoStore.Proofs.Schema.Reports
import MemoStore.Proofs.Store.Denials
import MemoStore.Store.Request

/-!
# Attempts to open a database

An attempt first gets at the database of some settings and then sets the schema up in it, so
`connect_eq` parts it into the two, and `connect_cases` lists the ways in which it can end.
`connect_ok` says what an attempt that succeeds leaves: a complete schema, and a report of a
mismatch exactly if the database is of another variant than the one that is configured.
`connect_complete` says that an attempt at a complete schema succeeds and leaves everything as it
is.
-/

namespace MemoStore.Opening

open MemoStore.Files (Disk)
open MemoStore.Schema (Backend Session Variant detectVariant initSchema)
open MemoStore.Store (Connection Database)
open MemoStore.Store.Connection (server)

/-! ## Getting at a database -/

/-- Gets at the database of some settings, before its schema is looked at. -/
def reach (settings : Settings) (disk : Disk) : Except Obstacle OpenDatabase × Disk :=
  match prepare disk settings.url with
  | (.error error, disk) => (.error (.failure (.file error)), disk)
  | (.ok (), disk) =>
    match target settings.url with
    | .error obstacle => (.error obstacle, disk)
    | .ok target =>
      match openTarget disk target with
      | .error text => (.error (.failure (Failure.ofEngine (.connection text))), disk)
      | .ok (database, disk) => (.ok database, disk)

/-- To open a database is to get at it and to set up its schema. -/
theorem connect_eq (settings : Settings) (disk : Disk) :
    connect settings disk =
      match reach settings disk with
      | (.ok database, disk) => setUpIn database disk settings.variant
      | (.error obstacle, disk) => { result := .error obstacle, disk := disk } := by
  unfold connect reach
  cases prepare disk settings.url with
  | mk prepared disk =>
      cases prepared with
      | error error => rfl
      | ok done =>
          cases target settings.url with
          | error obstacle => rfl
          | ok target =>
              simp only
              cases openTarget disk target <;> rfl

/-! ## Reports -/

/-- The report of a connection. -/
def connectedReport : Log.Record :=
  ⟨.info, .connection, "connected to " ++ Backend.sqlite.label ++ " database"⟩

/-- The report that there is nothing to create. -/
def presentReport : Log.Record :=
  ⟨.debug, .schema, "schema already present, skipping changelog"⟩

/-- The report of a new schema. -/
def createdReport (variant : Variant) : Log.Record :=
  ⟨.info, .connection, "schema created with variant " ++ variant.label⟩

/-- The report that a database is of another variant than the one that is configured. -/
def mismatchReport (detected configured : Variant) : Log.Record :=
  ⟨.warn, .connection,
    "database was created with variant " ++ detected.label ++ " but " ++ configured.label ++
      " is configured"⟩

/-- What is reported about the variant of a database. -/
def mismatchReports (detected configured : Variant) : List Log.Record :=
  if detected = configured then [] else [mismatchReport detected configured]

/-- A report of a mismatch names the two variants. -/
theorem mismatchReport_inj {detected configured other asked : Variant} :
    mismatchReport detected configured = mismatchReport other asked ↔
      detected = other ∧ configured = asked := by
  constructor
  · intro same
    have texts := congrArg Log.Record.text same
    unfold mismatchReport Variant.label at texts
    cases detected <;> cases configured <;> cases other <;> cases asked <;>
      first
        | exact ⟨rfl, rfl⟩
        | exact absurd texts (by decide +kernel)
  · rintro ⟨rfl, rfl⟩
    rfl

/-! ## Setting up -/

variable {connection : Connection} {db : Database} {variant : Variant}

/-- The variant of a database is found out by its index, and nothing changes. -/
theorem run_detectVariant (stored : connection.storage = .database db) :
    (detectVariant .sqlite).run server connection =
      ⟨.ok (Variant.ofIndex db.uniqueTagNames), connection, []⟩ := by
  have looked : server.lookup .tagNameIndex connection =
      (.ok db.uniqueTagNames, connection) := by
    simp only [server, Connection.read, stored]
    rfl
  simp only [detectVariant, Session.run, looked]

/-- A client that asks for the variant is told what the index says. -/
theorem answer_detectVariant (stored : connection.storage = .database db) (now : Time.Instant) :
    (connection.handle now .detectVariant).answer =
      .variant (Variant.ofIndex db.uniqueTagNames) := by
  simp only [Connection.handle, Connection.replyToSession, run_detectVariant stored]

/-- The look at the variant that ends a set-up. -/
def detection (variant : Variant) : Session (Except Failure Unit) :=
  (detectVariant .sqlite).andThen fun detected =>
    if detected = variant then .done (.ok ())
    else .report (mismatchReport detected variant) (.done (.ok ()))

/-- The detection of the variant leaves the connection as it is and reports a variant other than the
wanted one. -/
theorem run_detection (stored : connection.storage = .database db) (variant : Variant) :
    (detection variant).run server connection =
      ⟨.ok (), connection, mismatchReports (Variant.ofIndex db.uniqueTagNames) variant⟩ := by
  unfold detection Session.andThen mismatchReports
  rw [Session.run_bind, run_detectVariant stored]
  by_cases same : Variant.ofIndex db.uniqueTagNames = variant
  · simp only [same, if_true, Session.run, List.append_nil]
  · simp only [same, if_false, Session.run, List.nil_append]

/-- What opens every attempt: a report, the set-up of the schema, and the look at the variant. -/
theorem setUp_eq (variant : Variant) :
    setUp .sqlite variant =
      .report connectedReport ((initSchema .sqlite variant).andThen fun created =>
        if created then .report (createdReport variant) (detection variant)
        else detection variant) :=
  rfl

/-- A set-up that fails ends the attempt. -/
theorem run_setUp_error {failure : Failure}
    (failed : (connection.setUp variant).result = .error failure) :
    (setUp .sqlite variant).run server connection =
      ⟨.error failure, (connection.setUp variant).state,
        connectedReport :: (connection.setUp variant).log⟩ := by
  unfold Connection.setUp at failed ⊢
  rw [setUp_eq, Session.run, Session.andThen, Session.run_bind]
  simp only [failed, Session.run, List.append_nil]

/-- A set-up that succeeds is followed by a look at the variant. -/
theorem run_setUp_ok {applied : Bool}
    (succeeded : (connection.setUp variant).result = .ok applied)
    (stored : (connection.setUp variant).state.storage = .database db) :
    (setUp .sqlite variant).run server connection =
      ⟨.ok (), (connection.setUp variant).state,
        connectedReport :: ((connection.setUp variant).log ++
          ((if applied then [createdReport variant] else []) ++
            mismatchReports (Variant.ofIndex db.uniqueTagNames) variant))⟩ := by
  have looked := run_detection stored variant
  unfold Connection.setUp at succeeded looked ⊢
  rw [setUp_eq, Session.run, Session.andThen, Session.run_bind]
  cases applied with
  | false => simp only [succeeded, looked, Bool.false_eq_true, if_false, List.nil_append]
  | true => simp only [succeeded, looked, if_true, Session.run, List.cons_append, List.nil_append]

/-- Up to the end of the set-up, nothing is reported about a mismatch. -/
theorem mismatchReport_not_mem_setUp (detected configured : Variant) :
    mismatchReport detected configured ∉ connectedReport :: (connection.setUp variant).log := by
  intro member
  rcases List.mem_cons.mp member with same | member
  · cases congrArg Log.Record.level same
  · cases (Schema.reports_initSchema .sqlite variant).run server connection _ member

/-- What is reported over a complete schema. -/
theorem log_setUp_complete (stored : connection.storage = .database db) (complete : db.Complete)
    (variant : Variant) : (connection.setUp variant).log = [presentReport] := by
  have found := (Connection.run_presence stored).1
  rw [Connection.presence_complete_iff.mpr complete] at found
  have silent : ((Schema.presence .sqlite).run server connection).log = [] :=
    List.eq_nil_iff_forall_not_mem.mpr
      ((Schema.reports_presence .sqlite (p := fun _ => False)).run server connection)
  unfold Connection.setUp initSchema Session.andThen
  rw [Session.run_bind]
  simp only [found, silent, Session.run, List.nil_append]
  rfl

/-- The whole outcome over a complete schema. -/
theorem setUp_of_complete (stored : connection.storage = .database db) (complete : db.Complete)
    (variant : Variant) : connection.setUp variant = ⟨.ok false, connection, [presentReport]⟩ := by
  obtain ⟨result, state⟩ := Connection.setUp_complete stored complete variant
  have log := log_setUp_complete stored complete variant
  cases outcome : connection.setUp variant with
  | mk _ _ _ =>
      rw [outcome] at result state log
      cases result
      cases state
      cases log
      rfl

/-- A set-up that succeeds leaves a complete schema. -/
theorem exists_complete_of_setUp {applied : Bool}
    (succeeded : (connection.setUp variant).result = .ok applied) :
    ∃ db, (connection.setUp variant).state.storage = .database db ∧ db.Complete := by
  obtain ⟨db, stored, ⟨-, complete, same⟩ | ⟨-, -, after, on, complete, -⟩⟩ :=
    Connection.setUp_ok succeeded
  · exact ⟨db, (congrArg Connection.storage same).trans stored, complete⟩
  · exact ⟨after, on.storage, complete⟩

/-- Setting up a connection leaves what setting up its schema leaves. -/
theorem state_setUp (connection : Connection) (variant : Variant) :
    ((setUp .sqlite variant).run server connection).state = (connection.setUp variant).state := by
  cases result : (connection.setUp variant).result with
  | error failure => rw [run_setUp_error result]
  | ok applied =>
      obtain ⟨db, stored, -⟩ := exists_complete_of_setUp result
      rw [run_setUp_ok result stored]

/-- What is reported of a mismatch after a set-up names the variant that was found and the one that
is configured. -/
theorem mismatchReport_mem_iff {detected configured found : Variant} {applied : Bool} :
    mismatchReport detected configured ∈
        connectedReport :: ((connection.setUp variant).log ++
          ((if applied then [createdReport variant] else []) ++ mismatchReports found variant)) ↔
      detected = found ∧ configured = variant ∧ detected ≠ configured := by
  have before : mismatchReport detected configured ∉
      connectedReport :: (connection.setUp variant).log :=
    mismatchReport_not_mem_setUp detected configured
  have created : mismatchReport detected configured ∉
      if applied = true then [createdReport variant] else [] := by
    cases applied with
    | false => exact List.not_mem_nil
    | true =>
        intro member
        cases congrArg Log.Record.level (List.mem_singleton.mp member)
  rw [← List.cons_append, List.mem_append, List.mem_append, or_iff_right before,
    or_iff_right created, mismatchReports]
  split
  · rename_i same
    refine iff_of_false List.not_mem_nil ?_
    rintro ⟨rfl, rfl, apart⟩
    exact apart same
  · rename_i apart
    rw [List.mem_singleton, mismatchReport_inj]
    constructor
    · rintro ⟨rfl, rfl⟩
      exact ⟨rfl, rfl, apart⟩
    · rintro ⟨first, second, -⟩
      exact ⟨first, second⟩

/-! ## Attempts -/

variable {settings : Settings} {disk left : Disk} {database opened : OpenDatabase}

/-- How an attempt can end: it does not get at the database, or the set-up of the schema in it
fails, or the set-up succeeds and the variant of the database is looked at. -/
theorem connect_cases (settings : Settings) (disk : Disk) :
    (∃ obstacle left, reach settings disk = (.error obstacle, left) ∧
      connect settings disk = { result := .error obstacle, disk := left }) ∨
    ∃ database left, reach settings disk = (.ok database, left) ∧
      let outcome := database.connection.setUp settings.variant
      let after := { database with connection := outcome.state }
      (∃ failure, outcome.result = .error failure ∧
        connect settings disk =
          { result := .error (.failure failure)
            disk := after.keep left
            log := connectedReport :: outcome.log }) ∨
      ∃ applied db, outcome.result = .ok applied ∧ outcome.state.storage = .database db ∧
        db.Complete ∧
        connect settings disk =
          { result := .ok after
            disk := after.keep left
            log := connectedReport :: (outcome.log ++
              ((if applied then [createdReport settings.variant] else []) ++
                mismatchReports (Variant.ofIndex db.uniqueTagNames) settings.variant)) } := by
  rw [connect_eq]
  cases reached : reach settings disk with
  | mk arrival left =>
      cases arrival with
      | error obstacle => exact .inl ⟨obstacle, left, rfl, rfl⟩
      | ok database =>
          refine .inr ⟨database, left, rfl, ?_⟩
          cases result : (database.connection.setUp settings.variant).result with
          | error failure =>
              refine .inl ⟨failure, result, ?_⟩
              simp only [setUpIn, run_setUp_error result]
          | ok applied =>
              obtain ⟨db, stored, complete⟩ := exists_complete_of_setUp result
              refine .inr ⟨applied, db, result, stored, complete, ?_⟩
              simp only [setUpIn, run_setUp_ok result stored]

/-- An attempt that gets at a database succeeds exactly if the set-up of its schema does. -/
theorem connect_ok_iff (reached : reach settings disk = (.ok database, left)) :
    (∃ opened, (connect settings disk).result = .ok opened) ↔
      ∃ applied, (database.connection.setUp settings.variant).result = .ok applied := by
  rcases connect_cases settings disk with
    ⟨_, _, unreached, -⟩ |
      ⟨_, _, again, ⟨failure, failed, ended⟩ | ⟨applied, _, result, -, -, ended⟩⟩
  · cases reached.symm.trans unreached
  · cases reached.symm.trans again
    simp [ended, failed]
  · cases reached.symm.trans again
    simp [ended, result]

/-- An attempt that succeeds leaves a complete schema, and reports a mismatch exactly if the
database is of another variant than the one that is configured. -/
theorem connect_ok (succeeded : (connect settings disk).result = .ok opened) :
    ∃ database left db, reach settings disk = (.ok database, left) ∧
      opened.place = database.place ∧
      opened.connection = (database.connection.setUp settings.variant).state ∧
      opened.connection.storage = .database db ∧ db.Complete ∧
      (connect settings disk).disk = opened.keep left ∧
      ∀ detected configured, mismatchReport detected configured ∈ (connect settings disk).log ↔
        detected = Variant.ofIndex db.uniqueTagNames ∧ configured = settings.variant ∧
          detected ≠ configured := by
  rcases connect_cases settings disk with
    ⟨_, _, -, ended⟩ |
      ⟨database, left, reached, ⟨_, -, ended⟩ | ⟨_, db, -, stored, complete, ended⟩⟩
  · rw [ended] at succeeded
    cases succeeded
  · rw [ended] at succeeded
    cases succeeded
  · rw [ended] at succeeded
    cases succeeded
    refine ⟨database, left, db, reached, rfl, rfl, stored, complete, ?_, fun _ _ => ?_⟩
    · rw [ended]
    · rw [ended]
      exact mismatchReport_mem_iff

/-- An attempt that fails reports no mismatch. -/
theorem connect_error {obstacle : Obstacle}
    (failed : (connect settings disk).result = .error obstacle) (detected configured : Variant) :
    mismatchReport detected configured ∉ (connect settings disk).log := by
  rcases connect_cases settings disk with
    ⟨_, _, -, ended⟩ | ⟨_, _, -, ⟨_, -, ended⟩ | ⟨_, _, -, -, -, ended⟩⟩
  · rw [ended]
    exact List.not_mem_nil
  · rw [ended]
    exact mismatchReport_not_mem_setUp detected configured
  · rw [ended] at failed
    cases failed

/-- An attempt at a complete schema succeeds and leaves everything as it is. -/
theorem connect_complete (reached : reach settings disk = (.ok database, left))
    (stored : database.connection.storage = .database db) (complete : db.Complete) :
    connect settings disk =
      { result := .ok database
        disk := database.keep left
        log := [connectedReport, presentReport] ++
          mismatchReports (Variant.ofIndex db.uniqueTagNames) settings.variant } := by
  have outcome := setUp_of_complete stored complete settings.variant
  rw [connect_eq, reached]
  have set := run_setUp_ok (congrArg Schema.Outcome.result outcome)
    ((congrArg (fun outcome => outcome.state.storage) outcome).trans stored)
  simp only [setUpIn, set, outcome]
  rfl

end MemoStore.Opening
