import MemoStore.Proofs.Store.Decisions
import MemoStore.Proofs.Store.Refusals

/-!
# What a client is told of a write

A client is told of the first rule that a row breaks, by the constraint that stands for it,
and if the row breaks none the write is answered with the row as it is then stored. Only an
insertion that gets a key from the engine may be answered otherwise: a row whose key the client
cannot hold is stored and not handed out. `Reachable.verdicts` says so of every insertion and of
every update of a stored row, over every reachable connection.
-/

namespace MemoStore.Store

open MemoStore.Record (Fields)
open MemoStore.Schema (Variant)
open MemoStore.Time (Instant)

/-- Whether a row is stored in the database that a connection is to. -/
def Connection.Stores (connection : Connection) (row : Row) : Prop :=
  ∃ db, connection.storage = .database db ∧ db.Stored row

/-- What can keep a client from the row of a write. -/
inductive Obstacle where
  /-- a rule that the row breaks -/
  | breach (breach : Breach)
  /-- a key that the engine gave to the row and that the client cannot hold -/
  | key
  deriving DecidableEq

/-- The obstacles in the order in which they are met. -/
def Obstacle.order : List Obstacle :=
  Breach.order.map .breach ++ [.key]

/-! ## Failures -/

namespace Trial

/-- Whether an obstacle stands in the way of a write. -/
def Meets (trial : Trial) (variant : Variant) (db : Database) : Obstacle → Prop
  | .breach breach => trial.Breaks variant db breach
  | .key => trial.assigned = true ∧ Connection.maxKey < trial.row.key

/-- What a client is told of a write that meets an obstacle. -/
def failure (trial : Trial) : Obstacle → Failure
  | .breach .value =>
    .engine (Refusal.missingValue trial.row.entity (trial.lacking.headD "")).onExecution
  | .breach .owner => .checkViolation Schema.tagOwnerCheck
  | .breach .key => .uniqueViolation (trial.row.entity.table ++ ".id")
  | .breach .code => .uniqueViolation Schema.userCodeConstraint
  | .breach .name => .uniqueViolation Schema.tagNameIndex
  | .breach .reference => .foreignKeyViolation none
  | .key => .engine .unpackInsertId

variable {trial : Trial} {variant : Variant} {db : Database} {now : Instant}

/-- A refused write is reported as the rule that it breaks. -/
theorem writeFailure_refusal {breach : Breach} (broken : trial.Breaks variant db breach)
    (columns : trial.lacking ⊆ Refusal.requiredColumns trial.row.entity) :
    Connection.writeFailure (trial.refusal breach) = trial.failure (.breach breach) := by
  cases breach with
  | value =>
      obtain ⟨column, others, lacking⟩ := List.exists_cons_of_ne_nil broken
      simp only [refusal, failure, lacking, List.headD_cons]
      exact Refusal.ofEngine_missingValue (columns (lacking ▸ List.mem_cons_self))
  | owner => exact Refusal.ofEngine_checkFailed (by decide +kernel)
  | key => exact Refusal.ofEngine_duplicateKey _
  | code => exact Refusal.ofEngine_codeTaken
  | name => exact ofEngine_nameTaken
  | reference => exact Refusal.ofEngine_danglingReference

/-- An insertion lacks required columns only. -/
theorem insertion_lacking (fields : Fields) :
    (insertion db now fields).lacking ⊆
      Refusal.requiredColumns (insertion db now fields).row.entity := by
  have lacks {α : Type} {column : String} {given : Option α} {columns : List String}
      (required : column ∈ columns) : lack column given ⊆ columns := by
    cases given <;> simp [lack, required]
  cases fields <;>
    simp [insertion, Row.entity, Refusal.requiredColumns, List.append_subset, lacks]

/-- The engine gives a key to a new row that brings none. -/
theorem insertion_assigned {fields : Fields} :
    (insertion db now fields).assigned = true ↔ fields.id? = none := by
  cases fields <;> simp [insertion, Fields.id?]

/-- What a client is told of a write of a row. `answer` is what it is given of the row. -/
structure Verdict {α : Type} (variant : Variant) (db : Database) (trial : Trial)
    (answer : Row → α) (result : Except Failure (Connection × α)) : Prop where
  /-- The first obstacle is reported. If none is met, the row is given and stored. -/
  decided : Decided (trial.Meets variant db) trial.failure result
    (fun (connection, value) => value = answer trial.row ∧ connection.Stores trial.row)
    Obstacle.order
  /-- An official tag is never rejected for its name. -/
  official : ∀ tag, trial.row = .tag tag → tag.isOfficial = true →
    result ≠ .error (.uniqueViolation Schema.tagNameIndex)

/-- A broken rule is reported if the rules before it are kept. -/
theorem Verdict.reported {α : Type} {answer : Row → α} {result : Except Failure (Connection × α)}
    (verdict : Verdict variant db trial answer result) {before behind : List Breach}
    {breach : Breach} (kept : ∀ rule ∈ before, ¬ trial.Breaks variant db rule)
    (broken : trial.Breaks variant db breach)
    (order : Breach.order = before ++ breach :: behind) :
    result = .error (trial.failure (.breach breach)) := by
  have decided := verdict.decided
  rw [Obstacle.order, order, List.map_append, List.append_assoc] at decided
  refine (decided.skip fun obstacle member => ?_).1 broken
  obtain ⟨rule, earlier, rfl⟩ := List.mem_map.mp member
  exact kept rule earlier

/-- Only a taken name is reported by the index on tag names. -/
theorem failure_eq_tagNameIndex {obstacle : Obstacle}
    (same : .uniqueViolation Schema.tagNameIndex = trial.failure obstacle) :
    obstacle = .breach .name := by
  cases obstacle with
  | key => cases same
  | breach breach =>
      cases breach with
      | name => rfl
      | key =>
          have named := Failure.uniqueViolation.inj same
          cases entity : trial.row.entity <;> rw [entity] at named <;>
            exact absurd named (by decide)
      | code => exact absurd (Failure.uniqueViolation.inj same) (by decide)
      | value | owner | reference => cases same

/-- A verdict follows from what is decided, since an official tag with an owner breaks the
owner rule, which comes before the names. -/
theorem Verdict.of_decided {α : Type} {answer : Row → α}
    {result : Except Failure (Connection × α)}
    (decided : Decided (trial.Meets variant db) trial.failure result
      (fun (connection, value) => value = answer trial.row ∧ connection.Stores trial.row)
      Obstacle.order) :
    Verdict variant db trial answer result where
  decided := decided
  official := by
    intro tag row isOfficial rejected
    obtain ⟨obstacle, broken, same⟩ := decided.broken rejected
    obtain rfl := failure_eq_tagNameIndex same
    obtain ⟨-, _, _, owner, other, -, -, -, -, owned, -⟩ := broken
    have ownerBroken : trial.Breaks variant db .owner := by
      cases row.symm.trans other
      exact ⟨tag, row, by simp [isOfficial, owned]⟩
    by_cases lacking : trial.Breaks variant db .value
    · have reported := rejected.symm.trans (decided.1 lacking)
      cases failure_eq_tagNameIndex (Except.error.inj reported)
    · have reported := rejected.symm.trans ((decided.2 lacking).1 ownerBroken)
      cases failure_eq_tagNameIndex (Except.error.inj reported)

/-- What a client is told follows from what is decided of a statement, and behind it from whether
the row can be handed out. -/
theorem Verdict.of_decides {α β : Type} {answer : Row → α}
    {outcome : Except Refusal (Database × β)} {accepts : β → Prop}
    {result : Except Failure (Connection × α)}
    (decided : db.Decides variant trial outcome accepts)
    (columns : trial.lacking ⊆ Refusal.requiredColumns trial.row.entity)
    (refused : ∀ refusal, outcome = .error refusal →
      result = .error (Connection.writeFailure refusal))
    (succeeded : ∀ after value, outcome = .ok (after, value) → accepts value →
      after.Stored trial.row →
        (trial.Meets variant db .key → result = .error (trial.failure .key)) ∧
        (¬ trial.Meets variant db .key → ∃ next, result = .ok (next, answer trial.row) ∧
          next.storage = .database after)) :
    Verdict variant db trial answer result := by
  refine .of_decided (Decided.followed decided (fun _ => .rfl) ?_ ?_)
  · intro breach broken failed
    rw [refused _ failed, writeFailure_refusal broken columns]
  · rintro ⟨after, value⟩ done ⟨accepted, stored⟩
    obtain ⟨withheld, given⟩ := succeeded after value done accepted stored
    refine ⟨withheld, fun held => ?_⟩
    obtain ⟨next, answered, storage⟩ := given held
    exact ⟨_, answered, rfl, after, storage, stored⟩

end Trial

/-! ## Requests -/

namespace Connection

open Trial

variable {variant : Variant} {connection : Connection} {db : Database} {now : Instant}

/-- A stored row is read over a connection. -/
theorem get_on (on : connection.On db) (sound : db.Sound variant) {row : Row}
    (stored : db.Stored row) : connection.get row.entity row.key = .ok (some row) := by
  rw [Connection.get, read, on.storage]
  exact congrArg (Except.mapError readFailure) (sound.get stored)

/-- A stored row is read back as it is. -/
theorem readBack_on (on : connection.On db) (sound : db.Sound variant) {row : Row}
    (stored : db.Stored row) : connection.readBack row.entity row.key = .ok (connection, row) := by
  rw [readBack, get_on on sound stored]

/-- A new row is handed out unless the engine gave it a key that the client cannot hold. -/
theorem handOut_cases (fields : Fields) (row : Row) :
    handOut fields row = .ok row ∨
      fields.id? = none ∧ maxKey < row.key ∧ handOut fields row = .error keyTooLarge := by
  by_cases large : fields.id? = none ∧ maxKey < row.key
  · exact .inr ⟨large.1, large.2, if_pos large⟩
  · exact .inl (if_neg large)

/-- A client is told what is decided of an insertion. -/
theorem insert_verdict (on : connection.On db) (sound : db.Sound variant) (bounded : db.Bounded)
    (fields : Fields) :
    Verdict variant db (.insertion db now fields) id (connection.insert now fields) := by
  refine .of_decides (db.insert_decided sound bounded fields) (insertion_lacking fields) ?_ ?_
  · intro refusal refused
    rw [Connection.insert, store, write_on on, refused]
    rfl
  · rintro after row inserted rfl stored
    have inserts : connection.insert now fields =
        (handOut fields (insertion db now fields).row).map fun row =>
          (connection.wrote after, row) := by
      rw [Connection.insert, store, write_on on, inserted]
      rfl
    simp only [Meets, insertion_assigned]
    refine ⟨fun large => ?_, fun held => ⟨connection.wrote after, ?_, rfl⟩⟩
    · rw [inserts, handOut, if_pos large]
      rfl
    · rw [inserts, handOut, if_neg held]
      rfl

/-- The reply to an insertion that the engine refuses. -/
theorem handle_insert_refused (on : connection.On db) {fields : Fields} {refusal : Refusal}
    (refused : db.insert now fields = .error refusal) :
    connection.handle now (.insert fields) =
      { connection := connection, answer := .failed (writeFailure refusal) } := by
  rw [handle, store, write_on on, refused]
  rfl

/-- The reply to an insertion that the engine lets through. -/
theorem handle_insert_done (on : connection.On db) {fields : Fields} {after : Database} {row : Row}
    (done : db.insert now fields = .ok (after, row)) :
    connection.handle now (.insert fields) =
      (connection.wrote after).replyWith (handOut fields row) .row := by
  rw [handle, store, write_on on, done]
  rfl

/-- The answer to an insertion is its result. -/
theorem handle_insert_answer (fields : Fields) :
    (connection.handle now (.insert fields)).answer =
      (connection.replyTo (connection.insert now fields) .row).answer := by
  rw [handle, Connection.insert]
  rcases connection.store now fields with failure | ⟨next, row⟩
  · rfl
  · change (next.replyWith (handOut fields row) .row).answer =
      (connection.replyTo ((handOut fields row).map fun row => (next, row)) .row).answer
    cases handOut fields row <;> rfl

/-- A new row that breaks no rule is stored, whether or not it is handed out. -/
theorem stores_of_unbroken (on : connection.On db) (sound : db.Sound variant)
    (bounded : db.Bounded) {fields : Fields}
    (unbroken : ∀ breach, ¬ (insertion db now fields).Breaks variant db breach) :
    (connection.handle now (.insert fields)).connection.Stores (insertion db now fields).row := by
  obtain ⟨⟨after, _⟩, inserted, rfl, stored⟩ :=
    (db.insert_decided sound bounded fields).ok fun breach _ => unbroken breach
  rw [handle_insert_done on inserted, replyWith_connection]
  exact ⟨after, rfl, stored⟩

/-- An insertion that succeeds leaves the connection that it gives. -/
theorem insert_left {fields : Fields} {next : Connection} {row : Row}
    (inserted : connection.insert now fields = .ok (next, row)) :
    (connection.handle now (.insert fields)).connection = next := by
  obtain ⟨⟨left, stored⟩, storing, handed⟩ := bind_ok.mp inserted
  obtain ⟨_, -, same⟩ := bind_ok.mp handed
  cases same
  rw [handle, storing, replyWith_connection]

/-- A client is told what is decided of an update of a stored row. -/
theorem save_verdict (on : connection.On db) (sound : db.Sound variant) {old : Row}
    (stored : db.Stored old) {fields : Fields} (belongs : old.entity = fields.entity) :
    Verdict variant db (.change now old fields) id (connection.save now old.key fields) := by
  by_cases unchanged : fields.changes = []
  · have saved : connection.save now old.key fields = .ok (connection, old) := by
      rw [save, unchanged, ← belongs]
      exact readBack_on on sound stored
    have same : change now old fields = { row := old } := by
      rw [change_eq, change_row unchanged]
    have clear (obstacle : Obstacle) : ¬ Meets { row := old } variant db obstacle := by
      cases obstacle with
      | breach breach => exact not_breaks sound stored breach
      | key => exact fun met => Bool.false_ne_true met.1
    rw [same]
    exact .of_decided (.of_ok clear saved ⟨rfl, db, on.storage, stored⟩)
  · have changed : fields.changes.isEmpty = false := by simpa using unchanged
    have columns : (change now old fields).lacking ⊆
        Refusal.requiredColumns (change now old fields).row.entity := by
      rw [change_eq]
      exact List.nil_subset _
    refine .of_decides (db.update_decided sound stored belongs) columns ?_ ?_
    · intro refusal refused
      rw [save, changed, write_on on, refused]
      rfl
    · rintro after count updated rfl afterStored
      have back := readBack_on (on.wrote after) (sound.update updated) afterStored
      rw [change_entity, change_rowKey, belongs] at back
      have held : ¬ (change now old fields).Meets variant db .key := by
        rw [change_eq]
        exact fun met => Bool.false_ne_true met.1
      refine ⟨fun met => absurd met held, fun _ => ⟨connection.wrote after, ?_, rfl⟩⟩
      rw [save, changed, write_on on, updated]
      exact back

/-- A client that reads a row before it sets columns, of that row or of the one whose key is
among the columns, is told the same. -/
theorem update_verdict (on : connection.On db) (sound : db.Sound variant) {loaded old : Row}
    (loadedStored : db.Stored loaded) (stored : db.Stored old) {fields : Fields}
    (loadedBelongs : loaded.entity = fields.entity) (belongs : old.entity = fields.entity)
    (target : old.key = fields.id?.getD loaded.key) :
    Verdict variant db (.change now old fields) some
      (connection.update now loaded.key fields) := by
  have found := get_on on sound loadedStored
  rw [loadedBelongs] at found
  have saves : connection.update now loaded.key fields =
      (connection.save now old.key fields).map fun saved => (saved.1, some saved.2) := by
    rw [Connection.update, found, target]
    cases connection.save now (fields.id?.getD loaded.key) fields <;> rfl
  rw [saves]
  refine .of_decided ((save_verdict on sound stored belongs).decided.map ?_)
  rintro ⟨next, row⟩ ⟨rfl, stores⟩
  exact ⟨rfl, stores⟩

end Connection

end MemoStore.Store
