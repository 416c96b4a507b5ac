import MemoStore.Proofs.Store.SetUp

/-!
# Set-ups that succeed

A connection may be denied every change, and what is stored need not be a database. Neither keeps a
set-up from succeeding where the schema is complete, since it changes nothing there. Anywhere
else it has to create something, so `setUp_ok` can say what a set-up found that succeeded, and
what it left.
-/

namespace MemoStore.Store.Connection

open MemoStore.Schema (Object Presence Session Step Variant applyChangelog applySteps applyTogether
  findMissing initSchema presence scriptObjects steps_creates variantObjects)

variable {connection : Connection} {db : Database}

/-! ## Refusals -/

/-- Whether a session fails over a connection. -/
def FailsOver {α : Type} (connection : Connection) (session : Session (Except Failure α)) : Prop :=
  ∃ failure, (session.run server connection).result = .error failure

/-- A report in front leaves a session failing. -/
theorem FailsOver.report {α : Type} {session : Session (Except Failure α)} {record : Log.Record}
    (fails : connection.FailsOver session) : connection.FailsOver (.report record session) :=
  fails

/-- A session that fails does so whatever was to follow. -/
theorem FailsOver.andThen {α β : Type} {session : Session (Except Failure α)}
    {f : α → Session (Except Failure β)} (fails : connection.FailsOver session) :
    connection.FailsOver (session.andThen f) := by
  obtain ⟨failure, failed⟩ := fails
  exact ⟨failure, (Session.run_andThen_of_error failed).1⟩

/-- What a session found without a change, another may fail on. -/
theorem FailsOver.after_found {α β : Type} {session : Session (Except Failure α)} {value : α}
    {f : α → Session (Except Failure β)}
    (result : (session.run server connection).result = .ok value)
    (state : (session.run server connection).state = connection)
    (fails : connection.FailsOver (f value)) : connection.FailsOver (session.andThen f) := by
  obtain ⟨failure, failed⟩ := fails
  refine ⟨failure, ?_⟩
  rw [(Session.run_andThen_of_ok result).1, state, failed]

/-- A write over a connection that is denied every change is refused, whatever it is. -/
theorem write_denied {α : Type} (denied : connection.denial ≠ none)
    (statement : Database → Except Refusal (Database × α)) :
    ∃ refusal, connection.write statement = .error refusal := by
  obtain ⟨denial, given⟩ := Option.ne_none_iff_exists'.mp denied
  unfold write
  split
  · exact ⟨_, rfl⟩
  · split
    · exact ⟨_, rfl⟩
    · rw [given]
      exact ⟨_, rfl⟩

/-- An object that is missing is not created over such a connection. -/
theorem create_denied (stored : connection.storage = .database db)
    (denied : connection.denial ≠ none) (object : Object) :
    (db.hasObject object = true ∧ connection.create object = .ok connection) ∨
      db.hasObject object = false ∧ ∃ refusal, connection.create object = .error refusal := by
  have looked : connection.read (fun db => .ok (db.hasObject object)) =
      .ok (db.hasObject object) := by
    unfold read
    rw [stored]
  unfold create
  rw [looked]
  cases db.hasObject object with
  | true => exact .inl ⟨rfl, rfl⟩
  | false =>
      obtain ⟨refusal, refused⟩ :=
        write_denied denied fun db => (db.create object).map fun db => (db, ())
      exact .inr ⟨rfl, refusal, by rw [refused]; rfl⟩

/-- Statements fail over such a connection if one of them has something to create. -/
theorem applySteps_denied (stored : connection.storage = .database db)
    (denied : connection.denial ≠ none) {list : List Step}
    (missing : ∃ step ∈ list, db.hasObject step.creates = false) :
    connection.FailsOver (applySteps list) := by
  induction list with
  | nil =>
      obtain ⟨step, member, -⟩ := missing
      cases member
  | cons step rest inductionHypothesis =>
      rcases create_denied stored denied step.creates with ⟨there, created⟩ | ⟨-, refusal, refused⟩
      · have ran : server.execute step connection = (.ok (), connection) := by
          simp only [server, created, perform]
        obtain ⟨other, member, lacking⟩ := missing
        have later : other ∈ rest := by
          rcases List.mem_cons.mp member with rfl | later
          · rw [there] at lacking
            cases lacking
          · exact later
        obtain ⟨failure, failed⟩ := inductionHypothesis ⟨other, later, lacking⟩
        refine ⟨failure, ?_⟩
        simpa only [applySteps, Session.run, ran] using failed
      · have ran : server.execute step connection = (.error refusal.onExecution, connection) := by
          simp only [server, refused, perform]
        refine ⟨.ofEngine refusal.onExecution, ?_⟩
        simp only [applySteps, Session.run, ran]

/-- In a transaction they fail as well. -/
theorem applyTogether_denied (stored : connection.storage = .database db)
    (denied : connection.denial ≠ none) {list : List Step}
    (missing : ∃ step ∈ list, db.hasObject step.creates = false) :
    connection.FailsOver (applyTogether list) := by
  let begun : Connection := { connection with saved := some connection.storage }
  have run : (applyTogether list).run server connection =
      ((applySteps list).bind Schema.endTransaction).run server begun := rfl
  have begunStored : begun.storage = .database db := stored
  obtain ⟨failure, failed⟩ := applySteps_denied begunStored denied missing
  refine ⟨failure, ?_⟩
  rw [run, Session.run_bind]
  simp only [failed]
  rfl

/-- An incomplete schema is not completed over such a connection. -/
theorem initSchema_denied (stored : connection.storage = .database db)
    (denied : connection.denial ≠ none) (incomplete : ¬ db.Complete) (variant : Variant) :
    connection.FailsOver (initSchema .sqlite variant) := by
  obtain ⟨list, listed, objects⟩ :=
    steps_creates (by decide : Schema.Backend.sqlite ≠ .postgres) variant
  have missing : ∃ step ∈ list, db.hasObject step.creates = false := by
    obtain ⟨object, lacking⟩ := Classical.not_forall.mp (mt Database.complete_iff.mpr incomplete)
    obtain ⟨required, lacking⟩ := Classical.not_imp.mp lacking
    have created : object ∈ list.map Step.creates := by
      rw [objects]
      exact List.mem_append_left _ required
    obtain ⟨step, member, rfl⟩ := List.mem_map.mp created
    exact ⟨step, member, by simpa using lacking⟩
  have applying : connection.FailsOver (applyChangelog .sqlite variant) := by
    unfold applyChangelog
    rw [listed]
    exact .report (.andThen (applyTogether_denied stored denied missing))
  obtain ⟨result, state⟩ := run_presence stored
  have lacking := mt presence_complete_iff.mp incomplete
  refine .after_found result state ?_
  generalize Presence.of _ _ = found at lacking ⊢
  cases found with
  | complete => exact absurd rfl lacking
  | incomplete missing => exact .report applying
  | absent => exact applying

/-- No schema is set up in what is no database. -/
theorem initSchema_unusable {reason : Refusal} (stored : connection.storage = .unusable reason)
    (variant : Variant) : connection.FailsOver (initSchema .sqlite variant) := by
  have lookup (object : Object) : server.lookup object connection =
      (.error reason.onQuery, connection) := by
    simp only [server, read, stored]
    rfl
  have searching : connection.FailsOver (findMissing (scriptObjects .sqlite)) := by
    refine ⟨.ofEngine reason.onQuery, ?_⟩
    simp only [scriptObjects, Schema.tableObjects, List.cons_append, findMissing, Session.run,
      lookup]
  exact searching.andThen.andThen

/-! ## What is found and what is left -/

/-- A set-up that succeeds found a complete schema and changed nothing, or it completed one. -/
theorem setUp_ok {variant : Variant} {applied : Bool}
    (succeeded : (connection.setUp variant).result = .ok applied) :
    ∃ db, connection.storage = .database db ∧
      ((applied = false ∧ db.Complete ∧ (connection.setUp variant).state = connection) ∨
        applied = true ∧ ¬ db.Complete ∧ ∃ after, (connection.setUp variant).state.On after ∧
          after.Complete ∧ db.Extends after ∧
          after.uniqueTagNames = (db.uniqueTagNames || variant.hasTagNameIndex)) := by
  have never {failure : Failure} (failed : (connection.setUp variant).result = .error failure) :
      False := by
    rw [succeeded] at failed
    cases failed
  cases stored : connection.storage with
  | unusable reason =>
      obtain ⟨failure, failed⟩ := initSchema_unusable stored variant
      exact (never failed).elim
  | database db =>
      refine ⟨db, rfl, ?_⟩
      by_cases complete : db.Complete
      · obtain ⟨result, state⟩ := setUp_complete stored complete variant
        rw [succeeded] at result
        cases result
        exact .inl ⟨rfl, complete, state⟩
      · have writable : connection.denial = none := by
          refine Classical.byContradiction fun denied => ?_
          obtain ⟨failure, failed⟩ := initSchema_denied stored denied complete variant
          exact never failed
        rcases setUp_incomplete ⟨stored, writable⟩ complete variant with
          ⟨after, result, on, completed, extended, index, -⟩ | ⟨failed, -⟩
        · rw [succeeded] at result
          cases result
          exact .inr ⟨rfl, complete, after, on, completed, extended, index⟩
        · exact (never failed).elim

end MemoStore.Store.Connection
