import MemoStore.Proofs.Store.Connections

/-!
# Setting up a database

What setting up the schema makes of a database, whatever objects and rows it has and
whichever variant is asked for. `setUp_spec` says when anything is applied, what is there
afterwards and what is kept, that a second set-up changes nothing, and that the only
refusal is that of the index on tag names. A call that breaks down on the way leaves
everything as it was.
-/

namespace MemoStore.Store

open MemoStore.Schema (Object Presence Session Step Variant applyChangelog applySteps
  applyTogether findMissing initSchema presence scriptObjects steps_creates variantObjects)

/-- The refusal of a repeated tag name is reported with the name of the index. -/
theorem ofEngine_nameTaken :
    Failure.ofEngine nameTaken.onExecution = .uniqueViolation Schema.tagNameIndex := by
  have said : nameTaken.onExecution.message =
      "Execution Error: error returned from database: (code: 2067) " ++
        "UNIQUE constraint failed: tag.name, tag.is_official, tag.user_id" := by
    decide +kernel
  have recognised : Recognise.violation? nameTaken.onExecution.message.toList =
      some (.uniqueViolation Schema.tagNameIndex) := by
    rw [said]
    simp only [String.reduceAppend, String.reduceToList]
    decide +kernel
  rw [Failure.ofEngine, recognised, Option.getD_some]

namespace Connection

variable {connection : Connection} {db : Database}

/-- Sets the schema up over a connection. -/
def setUp (connection : Connection) (variant : Variant) :
    Schema.Outcome Connection (Except Failure Bool) :=
  (initSchema .sqlite variant).run server connection

/-- The objects that are missing are found, and nothing changes. -/
theorem run_findMissing (stored : connection.storage = .database db) (objects : List Object) :
    ((findMissing objects).run server connection).result =
        .ok (objects.filter fun object => !db.hasObject object) ∧
      ((findMissing objects).run server connection).state = connection := by
  induction objects with
  | nil => exact ⟨rfl, rfl⟩
  | cons object rest inductionHypothesis =>
      have looked : server.lookup object connection = (.ok (db.hasObject object), connection) := by
        simp only [server, read, stored]
        rfl
      obtain ⟨result, state⟩ := inductionHypothesis
      simp only [findMissing, Session.run, looked]
      rw [(Session.run_andThen_of_ok result).1, (Session.run_andThen_of_ok result).2, state]
      cases existing : db.hasObject object <;> simp [Session.run, existing]

/-- The state of the schema is found out, and nothing changes. -/
theorem run_presence (stored : connection.storage = .database db) :
    ((presence .sqlite).run server connection).result =
        .ok (Presence.of (scriptObjects .sqlite)
          ((scriptObjects .sqlite).filter fun object => !db.hasObject object)) ∧
      ((presence .sqlite).run server connection).state = connection := by
  obtain ⟨result, state⟩ := run_findMissing stored (scriptObjects .sqlite)
  have unfolded : presence .sqlite = (findMissing (scriptObjects .sqlite)).andThen
      fun missing => .done (.ok (Presence.of (scriptObjects .sqlite) missing)) := rfl
  rw [unfolded, (Session.run_andThen_of_ok result).1, (Session.run_andThen_of_ok result).2, state]
  exact ⟨rfl, rfl⟩

/-- The schema is found complete exactly if it is. -/
theorem presence_complete_iff :
    Presence.of (scriptObjects .sqlite)
        ((scriptObjects .sqlite).filter fun object => !db.hasObject object) = .complete ↔
      db.Complete := by
  rw [Database.complete_iff]
  have none_missing :
      ((scriptObjects .sqlite).filter fun object => !db.hasObject object).isEmpty = true ↔
        ∀ object ∈ scriptObjects .sqlite, db.hasObject object = true := by
    simp [List.filter_eq_nil_iff]
  rw [← none_missing]
  unfold Presence.of
  constructor
  · intro found
    split at found
    · assumption
    · split at found <;> cases found
  · intro empty
    rw [if_pos empty]

/-- A session that creates objects, gives a value if all can be created, and else fails with
the first refusal. -/
structure Creates {α : Type} (session : Session (Except Failure α)) (connection : Connection)
    (db : Database) (objects : List Object) (value : α) : Prop where
  ok : ∀ after, db.ensureAll objects = .ok after →
    (session.run server connection).result = .ok value ∧
      (session.run server connection).state.On after
  error : ∀ refusal, db.ensureAll objects = .error refusal →
    (session.run server connection).result = .error (.ofEngine refusal.onExecution)

namespace Creates

variable {α β : Type} {session : Session (Except Failure α)} {objects : List Object} {value : α}

/-- A report in front creates nothing and fails nothing. -/
theorem report {record : Log.Record} (creates : Creates session connection db objects value) :
    Creates (.report record session) connection db objects value :=
  ⟨creates.ok, creates.error⟩

/-- What a session found without a change, another may go on with. -/
theorem after_found {f : α → Session (Except Failure β)} {given : β}
    (result : (session.run server connection).result = .ok value)
    (state : (session.run server connection).state = connection)
    (creates : Creates (f value) connection db objects given) :
    Creates (session.andThen f) connection db objects given := by
  constructor
  · rw [(Session.run_andThen_of_ok result).1, (Session.run_andThen_of_ok result).2, state]
    exact creates.ok
  · rw [(Session.run_andThen_of_ok result).1, state]
    exact creates.error

/-- A value worked out at the end creates nothing and fails nothing. -/
theorem andThen_done {f : α → β} (creates : Creates session connection db objects value) :
    Creates (session.andThen fun value => .done (.ok (f value))) connection db objects
      (f value) where
  ok := by
    intro after ensured
    obtain ⟨result, on⟩ := creates.ok after ensured
    rw [(Session.run_andThen_of_ok result).1, (Session.run_andThen_of_ok result).2]
    exact ⟨rfl, on⟩
  error := by
    intro refusal refused
    exact (Session.run_andThen_of_error (creates.error refusal refused)).1

end Creates

/-- The statements of a list create their objects in turn. -/
theorem creates_applySteps (on : connection.On db) (list : List Step) :
    Creates (applySteps list) connection db (list.map Step.creates) () := by
  induction list generalizing connection db with
  | nil =>
      refine ⟨fun after ensured => ?_, fun refusal refused => by cases refused⟩
      cases ensured
      exact ⟨rfl, on⟩
  | cons step rest inductionHypothesis =>
      rcases create_on on step.creates with
        ⟨ready, ensured, next, created, nextOn⟩ | ⟨refusal, ensured, refused⟩
      · have ran : server.execute step connection = (.ok (), next) := by
          simp only [server, created, perform]
        obtain ⟨ok, error⟩ := inductionHypothesis nextOn
        constructor
        · simp only [applySteps, Session.run, ran, List.map_cons, Database.ensureAll, ensured]
          exact ok
        · simp only [applySteps, Session.run, ran, List.map_cons, Database.ensureAll, ensured]
          exact error
      · have ran : server.execute step connection = (.error refusal.onExecution, connection) := by
          simp only [server, refused, perform]
        constructor
        · simp only [List.map_cons, Database.ensureAll, ensured]
          intro after impossible
          cases impossible
        · simp only [applySteps, Session.run, ran, List.map_cons, Database.ensureAll, ensured]
          rintro other ⟨⟩
          rfl

/-- In a transaction they do so as well. -/
theorem creates_applyTogether (on : connection.On db) (list : List Step) :
    Creates (applyTogether list) connection db (list.map Step.creates) () := by
  let begun : Connection := { connection with saved := some connection.storage }
  have opened : begun.On db := ⟨on.storage, on.writable⟩
  have run : (applyTogether list).run server connection =
      ((applySteps list).bind Schema.endTransaction).run server begun := rfl
  obtain ⟨ok, error⟩ := creates_applySteps opened list
  constructor
  · intro after ensured
    obtain ⟨result, afterOn⟩ := ok after ensured
    rw [run, Session.run_bind]
    simp only [result]
    exact ⟨rfl, afterOn.storage, afterOn.writable⟩
  · intro refusal refused
    rw [run, Session.run_bind]
    simp only [error refusal refused]
    rfl

/-- On an incomplete schema the set-up creates the objects of the variant. -/
theorem creates_initSchema (on : connection.On db) (incomplete : ¬ db.Complete)
    (variant : Variant) :
    Creates (initSchema .sqlite variant) connection db (variantObjects .sqlite variant) true := by
  obtain ⟨list, listed, objects⟩ :=
    steps_creates (by decide : Schema.Backend.sqlite ≠ .postgres) variant
  have applying : Creates (applyChangelog .sqlite variant) connection db
      (variantObjects .sqlite variant) true := by
    unfold applyChangelog
    rw [listed, ← objects]
    exact .report (.andThen_done (creates_applyTogether on list))
  obtain ⟨result, state⟩ := run_presence on.storage
  have lacking := mt presence_complete_iff.mp incomplete
  refine .after_found result state ?_
  generalize Presence.of _ _ = found at lacking ⊢
  cases found with
  | complete => exact absurd rfl lacking
  | incomplete missing => exact .report applying
  | absent => exact applying

/-- A complete schema is left alone. -/
theorem setUp_complete (stored : connection.storage = .database db) (complete : db.Complete)
    (variant : Variant) :
    (connection.setUp variant).result = .ok false ∧
      (connection.setUp variant).state = connection := by
  obtain ⟨result, state⟩ := run_presence stored
  rw [presence_complete_iff.mpr complete] at result
  unfold setUp initSchema
  rw [(Session.run_andThen_of_ok result).1, (Session.run_andThen_of_ok result).2, state]
  exact ⟨rfl, rfl⟩

/-- An incomplete schema is completed, unless the index on tag names is new and the names
repeat. -/
theorem setUp_incomplete (on : connection.On db) (incomplete : ¬ db.Complete)
    (variant : Variant) :
    (∃ after, (connection.setUp variant).result = .ok true ∧
        (connection.setUp variant).state.On after ∧ after.Complete ∧ db.Extends after ∧
        after.uniqueTagNames = (db.uniqueTagNames || variant.hasTagNameIndex) ∧
        ¬ (variant = .uniqueTagName ∧ db.uniqueTagNames = false ∧ db.RepeatsTagName)) ∨
      ((connection.setUp variant).result = .error (.uniqueViolation Schema.tagNameIndex) ∧
        variant = .uniqueTagName ∧ db.uniqueTagNames = false ∧ db.RepeatsTagName) := by
  have creates := creates_initSchema on incomplete variant
  rcases db.ensureAll_variantObjects variant with
    ⟨after, ensured, complete, extended, index, unrefused⟩ | ⟨refused, repeated⟩
  · obtain ⟨result, afterOn⟩ := creates.ok after ensured
    exact .inl ⟨after, result, afterOn, complete, extended, index, unrefused⟩
  · have failed := creates.error nameTaken refused
    rw [ofEngine_nameTaken] at failed
    exact .inr ⟨failed, repeated⟩

/-- A set-up that fails, with or without a call that breaks down, leaves what is stored. -/
theorem setUp_atomic (variant : Variant) {failure : Failure}
    (failed : (connection.setUp variant).result = .error failure) :
    (connection.setUp variant).state.storage = connection.storage :=
  transactional.atomic_initSchema variant connection failure failed

/-- A set-up with calls that break down is the one without them, or it fails and leaves what
is stored. -/
theorem setUp_interrupted (variant : Variant) (breaks : Nat → Option EngineError) :
    let attempt := (initSchema .sqlite variant).run (server.interrupted breaks) (0, connection)
    (∃ applied, attempt.result = .ok applied ∧ (connection.setUp variant).result = .ok applied ∧
        attempt.state.2 = (connection.setUp variant).state) ∨
      (∃ failure, attempt.result = .error failure) ∧
        attempt.state.2.storage = connection.storage := by
  intro attempt
  cases result : attempt.result with
  | error failure =>
      have atomic := (transactional.interrupted breaks).atomic_initSchema variant (0, connection)
      exact .inr ⟨⟨failure, rfl⟩, atomic failure result⟩
  | ok applied =>
      rcases (Schema.strict_initSchema .sqlite variant).interrupted server breaks 0 connection with
        ⟨failure, failed⟩ | ⟨sameResult, sameState⟩
      · exact absurd (result.symm.trans failed) (by simp)
      · exact .inl ⟨applied, rfl, sameResult.symm.trans result, sameState⟩

/-- What setting up the schema makes of a database, with `breaks` the errors of calls that
break down. Without any the set-up is `plain`. -/
theorem setUp_spec (on : connection.On db)
    (admitted : db.uniqueTagNames = true → ¬ db.RepeatsTagName) (variant : Variant)
    (breaks : Nat → Option EngineError) :
    let plain := connection.setUp variant
    let attempt := (initSchema .sqlite variant).run (server.interrupted breaks) (0, connection)
    ((∃ applied, attempt.result = .ok applied ∧ plain.result = .ok applied ∧
          attempt.state.2 = plain.state) ∨
        (∃ failure, attempt.result = .error failure) ∧ attempt.state.2.storage = .database db) ∧
      (plain.result = .ok false ↔ db.Complete) ∧
      (plain.result = .ok false → plain.state = connection) ∧
      (plain.result = .ok true → ∃ after, plain.state.On after ∧ after.Complete ∧
        db.Extends after ∧
        (after.uniqueTagNames = true ↔ db.uniqueTagNames = true ∨ variant = .uniqueTagName)) ∧
      (∀ applied, plain.result = .ok applied → ∀ again,
        (plain.state.setUp again).result = .ok false ∧
          (plain.state.setUp again).state = plain.state) ∧
      (∀ failure, plain.result = .error failure ↔
        failure = .uniqueViolation Schema.tagNameIndex ∧ variant = .uniqueTagName ∧
          ¬ db.Complete ∧ db.RepeatsTagName) ∧
      (∀ failure, plain.result = .error failure → plain.state.storage = .database db) := by
  intro plain attempt
  have kept : ∀ failure, plain.result = .error failure → plain.state.storage = .database db :=
    fun failure failed => (setUp_atomic variant failed).trans on.storage
  refine ⟨on.storage ▸ setUp_interrupted variant breaks, ?_⟩
  by_cases complete : db.Complete
  · obtain ⟨result, state⟩ : plain.result = .ok false ∧ plain.state = connection :=
      setUp_complete on.storage complete variant
    refine ⟨iff_of_true result complete, fun _ => state, ?_, ?_, ?_, kept⟩
    · intro applied
      rw [result] at applied
      cases applied
    · intro applied _ again
      rw [state]
      exact setUp_complete on.storage complete again
    · intro failure
      refine iff_of_false ?_ fun refused => refused.2.2.1 complete
      rw [result]
      exact fun impossible => by cases impossible
  · rcases setUp_incomplete on complete variant with
      ⟨after, result, afterOn, completed, extended, index, unrefused⟩ |
        ⟨result, indexed, unique, repeated⟩
    · change plain.result = .ok true at result
      refine ⟨iff_of_false (by simp [result]) complete, by simp [result], fun _ => ?_, ?_, ?_, kept⟩
      · refine ⟨after, afterOn, completed, extended, ?_⟩
        rw [index, Bool.or_eq_true]
        cases variant <;> simp [Variant.hasTagNameIndex]
      · intro applied _ again
        exact setUp_complete afterOn.storage completed again
      · intro failure
        refine iff_of_false (by simp [result]) ?_
        rintro ⟨-, indexed, -, repeated⟩
        have unique : db.uniqueTagNames = false := by
          rw [Bool.eq_false_iff]
          exact fun unique => admitted unique repeated
        exact unrefused ⟨indexed, unique, repeated⟩
    · change plain.result = .error _ at result
      refine ⟨iff_of_false (by simp [result]) complete, by simp [result], by simp [result],
        by simp [result], fun failure => ?_, kept⟩
      rw [result]
      constructor
      · rintro ⟨⟩
        exact ⟨rfl, indexed, complete, repeated⟩
      · rintro ⟨rfl, -⟩
        rfl

/-- A database without trigger whose tags repeat a name can only be completed without the
index. -/
theorem setUp_spec_repeated :
    let tags : TagTable := { rows := [⟨1, "x", false, some 1⟩, ⟨2, "x", false, some 1⟩], lastKey := 2 }
    let db : Database := {
      users := some { rows := [⟨1, "a", "A"⟩], lastKey := 1 }
      memos := some {}
      tags := some tags }
    let connection := Connection.toDatabase db
    (connection.setUp .uniqueTagName).result = .error (.uniqueViolation "uniq_tag_name") ∧
      (connection.setUp .uniqueTagName).state.storage = .database db ∧
      ∃ after, (connection.setUp .basic).state.On after ∧ after.Complete ∧ db.Extends after := by
  intro tags db connection
  have on : connection.On db := ⟨rfl, rfl⟩
  have incomplete : ¬ db.Complete := fun complete => by cases complete.trigger
  have admitted : db.uniqueTagNames = true → ¬ db.RepeatsTagName := fun unique => by cases unique
  have repeated : db.RepeatsTagName := ⟨_, _, List.Sublist.refl _, rfl, rfl, rfl, by decide⟩
  obtain ⟨-, -, -, -, -, refused, kept⟩ := setUp_spec on admitted .uniqueTagName fun _ => none
  obtain ⟨-, complete, -, extended, -, error, -⟩ := setUp_spec on admitted .basic fun _ => none
  have failed := (refused _).mpr ⟨rfl, rfl, incomplete, repeated⟩
  refine ⟨failed, kept _ failed, ?_⟩
  cases result : (connection.setUp .basic).result with
  | error failure =>
      obtain ⟨-, indexed, -⟩ := (error failure).mp result
      cases indexed
  | ok applied =>
      cases applied with
      | false => exact absurd (complete.mp result) incomplete
      | true =>
          obtain ⟨after, afterOn, completed, lossless, -⟩ := extended result
          exact ⟨after, afterOn, completed, lossless⟩

end Connection

end MemoStore.Store
