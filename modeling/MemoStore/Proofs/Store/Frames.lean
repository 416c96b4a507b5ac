import MemoStore.Proofs.Store.Cells
import MemoStore.Proofs.Store.Writes

/-!
# Atomic writes

What a write to a reachable database may change. `Reachable.framed` says that a write that fails
changes nothing, so that whatever is asked afterwards is answered as if it had never been tried,
that an insertion adds one row, and that an update replaces one. `Rejects` names the ways in
which a write can fail: the engine refuses its only statement, or the row is not there. There is
one more way to be told of a failure, which leaves a row behind: `Reply.Withholds`.
-/

namespace MemoStore.Store

open MemoStore.Record (Entity Fields)
open MemoStore.Schema (Variant)
open MemoStore.Time (Instant)

/-- The row that a request updates, by its key, and the columns that it sets in it. -/
def Request.target? : Request → Option (Int × Fields)
  | .update id fields => some (fields.id?.getD id, fields)
  | .save id fields => some (id, fields)
  | _ => none

/-- Whether a reply to an insertion withholds its row: the row is stored, but the engine gave it a
key that the client cannot hold. -/
structure Reply.Withholds (reply : Reply) (fields : Fields) (row : Row) : Prop where
  answer : reply.answer = .failed (.engine .unpackInsertId)
  assigned : fields.id? = none
  large : Connection.maxKey < row.key
  belongs : row.entity = fields.entity
  stored : reply.connection.Stores row

namespace Connection

/-- The answers to requests that are made one after the other, each at its moment. -/
def answers (connection : Connection) : List (Instant × Request) → List Answer
  | [] => []
  | (now, request) :: rest =>
    let reply := connection.handle now request
    reply.answer :: reply.connection.answers rest

end Connection

namespace Database

/-- How a write fails: the engine refuses its only statement, or there is no row to update. -/
inductive Rejects (db : Database) (now : Instant) : Request → Failure → Prop where
  | insertion {fields : Fields} {refusal : Refusal} :
      db.insert now fields = .error refusal →
        Rejects db now (.insert fields) (Connection.writeFailure refusal)
  | change {request : Request} {id : Int} {fields : Fields} {refusal : Refusal} :
      request.target? = some (id, fields) → db.update now id fields = .error refusal →
        Rejects db now request (Connection.writeFailure refusal)
  | absent {request : Request} {id : Int} {fields : Fields} :
      request.target? = some (id, fields) → ¬ db.StoresKey fields.entity id →
        Rejects db now request
          (if fields.changes = [] then Connection.notFound else Connection.notUpdated)

/-- What an insertion leaves: one row more, with the values that it was given and the defaults of
the other columns. -/
structure Inserted (db : Database) (now : Instant) (fields : Fields) (after : Database)
    (row : Row) : Prop where
  belongs : row.entity = fields.entity
  new : ¬ db.StoresKey row.entity row.key
  columns : ∀ column ∈ fields.entity.columns.map Record.Column.name,
    row.cell? column = (given? fields.assignments column).or (db.default? now fields.entity column)
  rows : ∀ kind, after.rows? kind =
    (db.rows? kind).map fun rows => if kind = fields.entity then rows ++ [row] else rows

/-- What an update leaves: a row in the place of an old one, which differs from it in the columns
that are set and, for a memo, in the time of its last change. -/
structure Updated (db : Database) (now : Instant) (fields : Fields) (after : Database)
    (old row : Row) : Prop where
  stored : db.Stored old
  belongs : old.entity = fields.entity
  key : row.entity = old.entity ∧ row.key = old.key
  columns : ∀ column ∈ fields.entity.columns.map Record.Column.name,
    row.cell? column = (given? fields.changes column).or (old.cell? column) ∨
      fields.entity = .memo ∧ column = "updated_at" ∧
        row.cell? column = some (.time (.ofClock now))
  rows : ∀ kind, after.rows? kind =
    (db.rows? kind).map (List.map fun other => if other = old then row else other)

/-- What a write comes to: the database that it leaves and the answer to it. -/
inductive Outcome (db : Database) (now : Instant) : Request → Database → Answer → Prop where
  | rejected {request : Request} {failure : Failure} :
      db.Rejects now request failure → Outcome db now request db (.failed failure)
  | absent {id : Int} {fields : Fields} :
      ¬ db.StoresKey fields.entity id → Outcome db now (.update id fields) db .noRow
  | inserted {fields : Fields} {after : Database} {row : Row} :
      db.Inserted now fields after row → Outcome db now (.insert fields) after (.row row)
  | withheld {fields : Fields} {after : Database} {row : Row} :
      fields.id? = none → Connection.maxKey < row.key → db.Inserted now fields after row →
        Outcome db now (.insert fields) after (.failed (.engine .unpackInsertId))
  | updated {request : Request} {fields : Fields} {after : Database} {old row : Row} :
      request.target? = some (old.key, fields) → db.Updated now fields after old row →
        Outcome db now request after (.row row)
  | deleted {request : Request} {entity : Entity} {p : Int → Bool} {after : Database}
      {count : Nat} :
      request.deletion? = some (entity, p) → db.delete entity p = .ok (after, count) →
        Outcome db now request after (.affected count)

variable {variant : Variant} {db after : Database} {now : Instant} {fields : Fields} {old row : Row}

/-- An insertion that is answered with a row has added that row. -/
theorem Outcome.inserted_of_row (outcome : db.Outcome now (.insert fields) after (.row row)) :
    db.Inserted now fields after row := by
  cases outcome with
  | inserted done => exact done
  | updated target => cases target

/-- An update that is answered with a row has put that row in the place of its target. -/
theorem Outcome.updated_of_row {request : Request} {id : Int}
    (outcome : db.Outcome now request after (.row row))
    (target : request.target? = some (id, fields)) :
    ∃ old : Row, old.key = id ∧ db.Updated now fields after old row := by
  cases outcome with
  | inserted => cases target
  | updated other done =>
      cases other.symm.trans target
      exact ⟨_, rfl, done⟩

/-- An insertion adds one row, of the values that it is given and the defaults. -/
theorem inserted_of_insert (sound : db.Sound variant) (bounded : db.Bounded)
    (done : db.insert now fields = .ok (after, row)) : db.Inserted now fields after row := by
  obtain ⟨unbroken, same, -⟩ := (db.insert_decided sound bounded fields).kept done
  obtain ⟨rfl, new⟩ := insert_adds done
  have filled : (Trial.insertion db now fields).lacking = [] := by
    by_contra lacking
    exact unbroken .value (by decide) lacking
  have made : row = (Trial.insertion db now fields).row := same
  have belongs : row.entity = fields.entity := made ▸ Trial.insertion_entity
  refine ⟨belongs, new, fun column declared => ?_, fun kind => ?_⟩
  · rw [made]
    exact insertion_cell filled declared
  · rw [← belongs]
    exact rows?_adding kind

/-- A row that takes the place of an old one, as an update makes it of that row. -/
theorem updated_of_change (now : Instant) (sound : db.Sound variant)
    (stored : db.Stored old) (belongs : old.entity = fields.entity) :
    db.Updated now fields (db.replacing (Trial.change now old fields).row) old
      (Trial.change now old fields).row := by
  refine ⟨stored, belongs, ⟨Trial.change_entity, Trial.change_rowKey⟩, fun column declared => ?_,
    fun kind => ?_⟩
  · by_cases touched : fields.entity = .memo ∧ column = "updated_at"
    · obtain ⟨memo, rfl⟩ := touched
      rcases change_updatedAt belongs memo with kept | filled
      · exact .inl kept
      · exact .inr ⟨memo, rfl, filled⟩
    · exact .inl (change_cell belongs declared touched)
  · rw [rows?_replacing, Trial.change_entity, Trial.change_rowKey]
    cases table : db.rows? kind with
    | none => rfl
    | some rows =>
        refine congrArg some (List.map_congr_left fun other member => ?_)
        have otherStored : db.Stored other := by
          have listed : other ∈ (db.rows? kind).getD [] := by rwa [table]
          rwa [Stored, entity_of_mem listed]
        by_cases same : other = old
        · simp [same]
        · have apart : ¬ (other.entity = old.entity ∧ other.key = old.key) :=
            fun both => same (sound.stored_eq otherStored stored both.1 both.2)
          simp [same, apart]

/-- An update that changes no column leaves the old row as it is. -/
theorem updated_of_unchanged (now : Instant) (sound : db.Sound variant)
    (stored : db.Stored old) (belongs : old.entity = fields.entity)
    (unchanged : fields.changes = []) :
    db.Updated now fields db old (Trial.change now old fields).row := by
  have kept : (fun other => if other = old then old else other) = id := by
    funext other
    by_cases same : other = old <;> simp [same]
  refine { updated_of_change now sound stored belongs with rows := fun kind => ?_ }
  rw [Trial.change_row unchanged, kept]
  simp

end Database

namespace Connection

variable {variant : Variant} {connection : Connection} {db : Database} {now : Instant}
  {fields : Fields} {request : Request} {id : Int}

/-- Whether a request is an insertion whose row is withheld. -/
def Withheld (request : Request) (reply : Reply) : Prop :=
  ∃ fields row, request = .insert fields ∧ reply.Withholds fields row

/-- Whether a write over a connection to a database comes to one of its outcomes, with nothing
else changed if it fails, unless a row is withheld. -/
def Settles (connection : Connection) (db : Database) (now : Instant) (request : Request) : Prop :=
  let reply := connection.handle now request
  ∃ after, reply.connection.storage = .database after ∧
    db.Outcome now request after reply.answer ∧
    ∀ failure, reply.answer = .failed failure →
      reply.connection = connection ∨ Withheld request reply

/-- An insertion that the engine lets through leaves what it left, and its row is handed out or
withheld. -/
theorem handed_or_withheld (on : connection.On db) (sound : db.Sound variant)
    (bounded : db.Bounded) {after : Database} {row : Row}
    (done : db.insert now fields = .ok (after, row)) :
    let reply := connection.handle now (.insert fields)
    reply.connection = connection.wrote after ∧
      (reply.answer = .row row ∨ reply.Withholds fields row) := by
  obtain ⟨-, made, stored⟩ := (db.insert_decided sound bounded fields).kept done
  obtain rfl : row = (Trial.insertion db now fields).row := made
  intro reply
  have same : reply = (connection.wrote after).replyWith
      (handOut fields (Trial.insertion db now fields).row) .row := handle_insert_done on done
  have left : reply.connection = connection.wrote after := by rw [same, replyWith_connection]
  refine ⟨left, ?_⟩
  rcases handOut_cases fields (Trial.insertion db now fields).row with
    handed | ⟨assigned, large, withheld⟩
  · rw [same, handed]
    exact .inl rfl
  · refine .inr ⟨?_, assigned, large, Trial.insertion_entity, after, by rw [left]; rfl, stored⟩
    rw [same, withheld]
    rfl

/-- An insert comes to an outcome, and fails over a stored row only when it withholds the row. -/
theorem settles_insert (on : connection.On db) (sound : db.Sound variant) (bounded : db.Bounded) :
    connection.Settles db now (.insert fields) := by
  unfold Settles
  cases done : db.insert now fields with
  | error refusal =>
      rw [handle_insert_refused on done]
      exact ⟨db, on.storage, .rejected (.insertion done), fun _ _ => .inl rfl⟩
  | ok result =>
      obtain ⟨after, row⟩ := result
      have inserted := db.inserted_of_insert sound bounded done
      obtain ⟨left, handed | withheld⟩ := handed_or_withheld on sound bounded done
      · refine ⟨after, by rw [left]; rfl, handed ▸ .inserted inserted, fun failure failed => ?_⟩
        cases handed.symm.trans failed
      · have outcome := Database.Outcome.withheld withheld.assigned withheld.large inserted
        exact ⟨after, by rw [left]; rfl, withheld.answer ▸ outcome,
          fun _ _ => .inr ⟨fields, row, rfl, withheld⟩⟩

/-- What setting columns of the row with a key comes to. -/
inductive Saving (connection : Connection) (db : Database) (now : Instant) (fields : Fields) :
    Int → Reply → Prop where
  | refused {id : Int} {refusal : Refusal} :
      db.update now id fields = .error refusal →
        Saving connection db now fields id
          { connection := connection, answer := .failed (writeFailure refusal) }
  | absent {id : Int} :
      ¬ db.StoresKey fields.entity id →
        Saving connection db now fields id
          { connection := connection
            answer := .failed (if fields.changes = [] then notFound else notUpdated) }
  | unchanged {old : Row} :
      db.Stored old → old.entity = fields.entity → fields.changes = [] →
        Saving connection db now fields old.key
          { connection := connection, answer := .row (Trial.change now old fields).row }
  | changed {old : Row} :
      db.Stored old → old.entity = fields.entity →
        Saving connection db now fields old.key
          { connection := connection.wrote (db.replacing (Trial.change now old fields).row)
            answer := .row (Trial.change now old fields).row }

/-- Setting columns of a row comes to one of the cases of `Saving`. -/
theorem saving (on : connection.On db) (sound : db.Sound variant) (now : Instant) (id : Int)
    (fields : Fields) : Saving connection db now fields id
      (connection.replyTo (connection.save now id fields) .row) := by
  by_cases stores : db.StoresKey fields.entity id
  · obtain ⟨old, stored, belongs, rfl⟩ := stores
    rw [save_stored on sound stored belongs]
    cases done : db.update now old.key fields with
    | error refusal => exact .refused done
    | ok result =>
        by_cases unchanged : fields.changes = []
        · rw [if_pos unchanged]
          exact .unchanged stored belongs unchanged
        · rw [if_neg unchanged]
          exact .changed stored belongs
  · rw [save_absent on sound stores]
    exact .absent stores

/-- A request that goes on to set columns of a row settles. -/
theorem settles_save (on : connection.On db) (sound : db.Sound variant)
    (target : request.target? = some (id, fields))
    (saves : connection.handle now request =
      connection.replyTo (connection.save now id fields) .row) :
    connection.Settles db now request := by
  have saved := saving on sound now id fields
  unfold Settles
  rw [saves]
  generalize connection.replyTo (connection.save now id fields) .row = reply at saved ⊢
  cases saved with
  | refused done => exact ⟨db, on.storage, .rejected (.change target done), fun _ _ => .inl rfl⟩
  | absent stores => exact ⟨db, on.storage, .rejected (.absent target stores), fun _ _ => .inl rfl⟩
  | unchanged stored belongs unchanged =>
      have left := db.updated_of_unchanged now sound stored belongs unchanged
      exact ⟨db, on.storage, .updated target left, fun failure impossible => by cases impossible⟩
  | changed stored belongs =>
      have left := db.updated_of_change now sound stored belongs
      exact ⟨_, rfl, .updated target left, fun failure impossible => by cases impossible⟩

/-- An update of a row that is stored goes on to set its columns. -/
theorem handle_update_stored (on : connection.On db) (sound : db.Sound variant)
    (stores : db.StoresKey fields.entity id) :
    connection.handle now (.update id fields) =
      connection.replyTo (connection.save now (fields.id?.getD id) fields) .row := by
  obtain ⟨loaded, stored, belongs, rfl⟩ := stores
  have found := get_on on sound stored
  rw [belongs] at found
  rw [handle, Connection.update, found]
  cases connection.save now (fields.id?.getD loaded.key) fields <;> rfl

/-- An update of a row that is not stored does nothing. -/
theorem handle_update_absent (on : connection.On db) (sound : db.Sound variant)
    (absent : ¬ db.StoresKey fields.entity id) :
    connection.handle now (.update id fields) =
      { connection := connection, answer := .noRow } := by
  rw [handle, Connection.update, get_eq on, db.get_absent sound absent]
  rfl

/-- An update comes to an outcome, and changes nothing when it fails. -/
theorem settles_update (on : connection.On db) (sound : db.Sound variant) :
    connection.Settles db now (.update id fields) := by
  by_cases stores : db.StoresKey fields.entity id
  · exact settles_save on sound rfl (handle_update_stored on sound stores)
  · unfold Settles
    rw [handle_update_absent on sound stores]
    exact ⟨db, on.storage, .absent stores, fun _ _ => .inl rfl⟩

/-- A deletion never fails. -/
theorem settles_deletion (on : connection.On db) (sound : db.Sound variant) {entity : Entity}
    {p : Int → Bool} (deletes : request.deletion? = some (entity, p)) :
    connection.Settles db now request := by
  have deleted := Database.delete_eq sound entity p
  have written := write_on on fun db => db.delete entity p
  rw [deleted] at written
  unfold Settles
  cases request with
  | delete kind id =>
      cases deletes
      rw [handle, Connection.delete, written]
      exact ⟨_, rfl, .deleted rfl deleted, fun failure impossible => by cases impossible⟩
  | deleteAll kind =>
      cases deletes
      rw [handle, Connection.deleteAll, written]
      exact ⟨_, rfl, .deleted rfl deleted, fun failure impossible => by cases impossible⟩
  | _ => cases deletes

/-- Every write comes to an outcome, with one case for each kind of write. -/
theorem settles (on : connection.On db) (sound : db.Sound variant) (bounded : db.Bounded)
    (writes : request.isWrite = true) : connection.Settles db now request := by
  cases request with
  | insert fields => exact settles_insert on sound bounded
  | update id fields => exact settles_update on sound
  | save id fields => exact settles_save on sound rfl rfl
  | delete entity id => exact settles_deletion on sound rfl
  | deleteAll entity => exact settles_deletion on sound rfl
  | _ => cases writes

/-- Every write to a reachable database is atomic and framed. One that fails leaves the database
as it was, and whatever is asked afterwards is answered as if it had not been tried, unless it is
an insertion whose row is withheld. An insertion adds one row of the values that it is given and
the defaults; an update replaces one row by one that differs from it in the columns that are set,
and for a memo in the time of its last change. -/
theorem Reachable.framed (reachable : Reachable variant connection) (now : Instant)
    (writes : request.isWrite = true) :
    let reply := connection.handle now request
    ∃ db after, connection.storage = .database db ∧ reply.connection.storage = .database after ∧
      db.Outcome now request after reply.answer ∧
      ∀ failure, reply.answer = .failed failure →
        (after = db ∧ ∀ later, reply.connection.answers later = connection.answers later) ∨
          Withheld request reply := by
  obtain ⟨db, on, sound, bounded⟩ := reachable.keys
  have settled : connection.Settles db now request := settles on sound bounded writes
  obtain ⟨after, left, outcome, unchanged⟩ := settled
  refine ⟨db, after, on.storage, left, outcome, fun failure failed => ?_⟩
  refine (unchanged failure failed).imp_left fun same => ?_
  rw [same] at left
  exact ⟨Storage.database.inj (left.symm.trans on.storage), fun later => by rw [same]⟩

/-- A memo of a user who is not stored is rejected for its reference. -/
theorem answer_orphan (on : connection.On db) (sound : db.Sound variant) (bounded : db.Bounded)
    {owner : Int} (absent : ¬ db.userTable.Stores owner) (title content : String) :
    (connection.handle now (.insert (.memo {
      userId := some owner, title := some title, content := some content }))).answer =
        .failed (.foreignKeyViolation none) := by
  let fields : Fields :=
    .memo { userId := some owner, title := some title, content := some content }
  have dangling : (Trial.insertion db now fields).Breaks variant db .reference :=
    ⟨.user, owner, List.mem_singleton_self _,
      fun stores => absent (Database.storesKey_user.mp stores)⟩
  have kept : ∀ rule ∈ [Breach.value, .owner, .key, .code, .name],
      ¬ (Trial.insertion db now fields).Breaks variant db rule := by
    simp [Trial.Breaks, Trial.insertion, Trial.lack, fields]
  have verdict : Trial.Verdict variant db (.insertion db now fields) id
      (connection.insert now fields) := insert_verdict on sound bounded fields
  rw [handle_insert_answer, verdict.reported kept dangling rfl]
  rfl

/-- A memo of a user who is not stored is rejected without a trace. A memo of a stored user is
added, and a new title changes that memo only. -/
theorem Reachable.framed_memo :
    let fresh := ((toDatabase .empty).setUp .basic).state
    let user := Fields.user { name := some "a", code := some "A" }
    let memo (owner : Int) := Fields.memo {
      userId := some owner, title := some "t", content := some "c" }
    let title := Fields.memo { title := some "u" }
    let owned := (fresh.handle ⟨0, 0⟩ (.insert user)).connection
    let orphan := owned.handle ⟨1, 0⟩ (.insert (memo 7))
    let added := owned.handle ⟨1, 0⟩ (.insert (memo 1))
    let titled := added.connection.handle ⟨2, 0⟩ (.update 1 title)
    (orphan.answer = .failed (.foreignKeyViolation none) ∧
      ∀ later, orphan.connection.answers later = owned.answers later) ∧
    (∃ db after, owned.storage = .database db ∧ added.connection.storage = .database after ∧
      db.Inserted ⟨1, 0⟩ (memo 1) after (.memo ⟨1, .filled 1, .filled 1, 1, "t", "c"⟩)) ∧
    ∃ db after old, added.connection.storage = .database db ∧
      titled.connection.storage = .database after ∧
      db.Updated ⟨2, 0⟩ title after old (.memo ⟨1, .filled 1, .filled 2, 1, "u", "c"⟩) := by
  refine setUp_cases .basic ⟨rfl, rfl⟩ fun keepsKeys changed saved created => ?_
  intro fresh user memo title owned orphan added titled
  have ownedReachable : Reachable .basic owned := .written _ _ created rfl
  have addedReachable : Reachable .basic added.connection := .written _ _ ownedReachable rfl
  have writes (fields : Fields) : (Request.insert fields).isWrite = true := rfl
  refine ⟨?_, ?_, ?_⟩
  · obtain ⟨db, on, sound, bounded⟩ := ownedReachable.keys
    have absent : ¬ db.userTable.Stores 7 := by
      cases on.storage
      rintro ⟨user, member, same⟩
      cases List.mem_singleton.mp member
      cases same
    have answered : orphan.answer = .failed (.foreignKeyViolation none) :=
      answer_orphan on sound bounded absent "t" "c"
    obtain ⟨_, _, -, -, -, unchanged⟩ := ownedReachable.framed ⟨1, 0⟩ (writes (memo 7))
    rcases unchanged _ answered with ⟨-, same⟩ | ⟨_, _, -, withheld⟩
    · exact ⟨answered, same⟩
    · cases answered.symm.trans withheld.answer
  · obtain ⟨db, after, storage, left, outcome, -⟩ :=
      ownedReachable.framed ⟨1, 0⟩ (writes (memo 1))
    have answered : added.answer = .row (.memo ⟨1, .filled 1, .filled 1, 1, "t", "c"⟩) := rfl
    refine ⟨db, after, storage, left, ?_⟩
    rw [answered] at outcome
    exact outcome.inserted_of_row
  · obtain ⟨db, after, storage, left, outcome, -⟩ :=
      addedReachable.framed ⟨2, 0⟩ (rfl : (Request.update 1 title).isWrite = true)
    have answered : titled.answer = .row (.memo ⟨1, .filled 1, .filled 2, 1, "u", "c"⟩) := by
      simp only [titled, added, owned, fresh, title, memo, user]
      cbv
    rw [answered] at outcome
    obtain ⟨old, -, done⟩ := outcome.updated_of_row rfl
    exact ⟨db, after, old, storage, left, done⟩

/-- A user is stored behind the largest key that a client can hold, and the client is told of a
failure. -/
theorem Reachable.framed_beyond_keys :
    let fresh := ((toDatabase .empty).setUp .basic).state
    let largest := Fields.user { id := some 2147483647, name := some "a", code := some "A" }
    let last := (fresh.handle ⟨0, 0⟩ (.insert largest)).connection
    let reply := last.handle ⟨1, 0⟩ (.insert (.user { name := some "b", code := some "B" }))
    let row := Row.user ⟨2147483648, "b", "B"⟩
    reply.answer = .failed (.engine .unpackInsertId) ∧ ¬ last.Stores row ∧
      reply.connection.Stores row := by
  refine setUp_cases .basic ⟨rfl, rfl⟩ fun keepsKeys changed saved _ => ?_
  intro fresh largest last reply row
  refine ⟨rfl, ?_, _, rfl, List.mem_cons_of_mem _ (List.mem_singleton_self _)⟩
  rintro ⟨db, storage, stored⟩
  cases storage
  have same : row = .user ⟨2147483647, "a", "A"⟩ := List.mem_singleton.mp stored
  exact absurd (congrArg Row.key same) (by decide)

end Connection

end MemoStore.Store
