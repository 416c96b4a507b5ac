import MemoStore.Proofs.Store.Alike

/-!
# The two variants

Two databases of the two variants that start without rows and are asked the same at the same
moments give the same answers and keep the same contents, until the one with the index on tag names
refuses a name. `parting_handle` says so of one request and `Connection.variants` of every run. The
database without the index never refuses a name. It stores the row that the other one refused, if
the owner of the tag is there, and hands it out unless it got a key that the client cannot hold.
-/

namespace MemoStore.Store

open MemoStore.Record (Entity Fields)
open MemoStore.Schema (Variant)
open MemoStore.Time (Instant)

/-- Whether a request is about rows. -/
def Request.isRecord : Request → Bool
  | .insert _ | .update _ _ | .save _ _ | .delete _ _ | .deleteAll _ | .get _ _ | .list _ | .count _
  | .related _ _ _ _ => true
  | _ => false

/-- What a client is told whose tag has a name that is taken. -/
def Answer.nameTaken : Answer :=
  .failed (.uniqueViolation Schema.tagNameIndex)

namespace Connection

/-- Whether two connections are to databases with the same contents. -/
def SameContents (strict loose : Connection) : Prop :=
  ∃ db other, strict.storage = .database db ∧ loose.storage = .database other ∧
    db.SameContents other

/-- How the replies of the two variants to one request compare. -/
inductive Parting (request : Request) (strict loose : Reply) : Prop where
  | together : strict.answer = loose.answer → strict.connection.SameContents loose.connection →
      Parting request strict loose
  | apart : strict.answer = .nameTaken →
      (∃ row, loose.answer = .row row) ∨ loose.answer = .failed (.foreignKeyViolation none) ∨
        Withheld request loose →
      Parting request strict loose

/-- A name that the engine refuses is reported as taken. -/
theorem nameTaken_of_insert {connection : Connection} {db : Database} {now : Instant}
    {fields : Fields} (on : connection.On db)
    (refused : db.insert now fields = .error Store.nameTaken) :
    (connection.handle now (.insert fields)).answer = .nameTaken := by
  rw [handle_insert_refused on refused]
  exact congrArg Answer.failed ofEngine_nameTaken

section Step

variable {strict loose : Connection} {db other : Database} {now : Instant} {fields : Fields}
  {id : Int} {request : Request}

/-- Two databases of the two variants with the same contents, and the connections to them. -/
structure Twins (strict loose : Connection) (db other : Database) : Prop where
  strictOn : strict.On db
  looseOn : loose.On other
  strictSound : db.Sound .uniqueTagName
  looseSound : other.Sound .basic
  strictBounded : db.Bounded
  looseBounded : other.Bounded
  same : db.SameContents other

namespace Twins

variable (twins : Twins strict loose db other)

include twins

/-- Both connections have the same contents. -/
theorem unchanged : strict.SameContents loose :=
  ⟨db, other, twins.strictOn.storage, twins.looseOn.storage, twins.same⟩

/-- What only reads is answered alike. -/
theorem parting_replyWith {α : Type} {first second : Except Failure α} (alike : second = first)
    (answer : α → Answer) :
    Parting request (strict.replyWith first answer) (loose.replyWith second answer) := by
  subst alike
  cases second with
  | ok value => exact .together rfl twins.unchanged
  | error failure => exact .together rfl twins.unchanged

/-- A lookup finds the same row in both. -/
theorem get (kind : Entity) (id : Int) : loose.get kind id = strict.get kind id := by
  rw [get_eq twins.strictOn, get_eq twins.looseOn,
    twins.same.get twins.strictSound.complete twins.looseSound.complete]

/-- An insert goes alike over both, or the strict connection has the name taken. -/
theorem parting_insert :
    Parting (.insert fields) (strict.handle now (.insert fields))
      (loose.handle now (.insert fields)) := by
  have decided : db.Decides .uniqueTagName (.insertion db now fields) _ _ :=
    db.insert_decided twins.strictSound twins.strictBounded fields
  have decided' : other.Decides .basic (.insertion other now fields) _ _ :=
    other.insert_decided twins.looseSound twins.looseBounded fields
  rw [twins.same.insertion] at decided'
  rcases Database.decides_alike twins.same decided decided' with
    ⟨refusal, failed, failed'⟩ |
    ⟨⟨after, row, done, made⟩, otherAfter, otherRow, done', made'⟩ | ⟨taken, left⟩
  · rw [handle_insert_refused twins.strictOn failed, handle_insert_refused twins.looseOn failed']
    exact .together rfl twins.unchanged
  · rw [handle_insert_done twins.strictOn done, handle_insert_done twins.looseOn done']
    obtain ⟨rfl, -⟩ := Database.insert_adds done
    obtain ⟨rfl, -⟩ := Database.insert_adds done'
    obtain rfl : otherRow = row := made'.trans made.symm
    have contents :=
      twins.same.adding twins.strictSound.complete twins.looseSound.complete otherRow
    cases handOut fields otherRow with
    | ok row => exact .together rfl ⟨_, _, rfl, rfl, contents⟩
    | error failure => exact .together rfl ⟨_, _, rfl, rfl, contents⟩
  · refine .apart (nameTaken_of_insert twins.strictOn taken) ?_
    rcases left with ⟨after, row, done, -⟩ | dangling
    · obtain ⟨-, handed | withheld⟩ :=
        handed_or_withheld twins.looseOn twins.looseSound twins.looseBounded done
      · exact .inl ⟨row, handed⟩
      · exact .inr (.inr ⟨fields, row, rfl, withheld⟩)
    · rw [handle_insert_refused twins.looseOn dangling]
      exact .inr (.inl (congrArg Answer.failed Refusal.ofEngine_danglingReference))

/-- Saving a row goes alike over both, or the strict connection has the name taken. -/
theorem parting_save :
    Parting request (strict.replyTo (strict.save now id fields) .row)
      (loose.replyTo (loose.save now id fields) .row) := by
  by_cases stores : db.StoresKey fields.entity id
  · obtain ⟨old, stored, belongs, rfl⟩ := stores
    have stored' := twins.same.stored.mpr stored
    have decided : db.Decides .uniqueTagName (.change now old fields) _ _ :=
      db.update_decided twins.strictSound stored belongs
    have decided' : other.Decides .basic (.change now old fields) _ _ :=
      other.update_decided twins.looseSound stored' belongs
    rw [save_stored twins.strictOn twins.strictSound stored belongs,
      save_stored twins.looseOn twins.looseSound stored' belongs]
    rcases Database.decides_alike twins.same decided decided' with
      ⟨refusal, failed, failed'⟩ | ⟨⟨_, _, done, -⟩, _, _, done', -⟩ | ⟨taken, left⟩
    · rw [failed, failed']
      exact .together rfl twins.unchanged
    · rw [done, done']
      refine .together rfl ?_
      by_cases unchanged : fields.changes = []
      · simpa [Except.map, Except.mapError, replyTo, unchanged] using twins.unchanged
      · have replaced := twins.same.replacing twins.strictSound.complete
          twins.looseSound.complete (Trial.change now old fields).row
        simpa [Except.map, Except.mapError, replyTo, unchanged] using ⟨_, _, rfl, rfl, replaced⟩
    · rw [taken]
      refine .apart (congrArg Answer.failed ofEngine_nameTaken) ?_
      rcases left with ⟨after, count, done, -⟩ | dangling
      · rw [done]
        exact .inl ⟨_, rfl⟩
      · rw [dangling]
        exact .inr (.inl (congrArg Answer.failed Refusal.ofEngine_danglingReference))
  · have stores' : ¬ other.StoresKey fields.entity id := by rwa [twins.same.storesKey]
    rw [save_absent twins.strictOn twins.strictSound stores,
      save_absent twins.looseOn twins.looseSound stores']
    exact .together rfl twins.unchanged

/-- An update goes alike over both, or the strict connection has the name taken. -/
theorem parting_update :
    Parting (.update id fields) (strict.handle now (.update id fields))
      (loose.handle now (.update id fields)) := by
  by_cases stores : db.StoresKey fields.entity id
  · rw [handle_update_stored twins.strictOn twins.strictSound stores,
      handle_update_stored twins.looseOn twins.looseSound (twins.same.storesKey.mpr stores)]
    exact twins.parting_save
  · rw [handle_update_absent twins.strictOn twins.strictSound stores, handle_update_absent
      twins.looseOn twins.looseSound fun looser => stores (twins.same.storesKey.mp looser)]
    exact .together rfl twins.unchanged

/-- A deletion goes alike over both. -/
theorem parting_deletion (entity : Entity) (p : Int → Bool) :
    Parting request
      (strict.replyTo ((strict.write fun db => db.delete entity p).mapError writeFailure)
        .affected)
      (loose.replyTo ((loose.write fun db => db.delete entity p).mapError writeFailure)
        .affected) := by
  rw [write_on twins.strictOn, write_on twins.looseOn, Database.delete_eq twins.strictSound,
    Database.delete_eq twins.looseSound,
    twins.same.rows? twins.strictSound.complete twins.looseSound.complete]
  refine .together rfl ⟨_, _, rfl, rfl, ?_⟩
  exact twins.same.removeRows twins.strictSound.toLinked twins.looseSound.toLinked entity p

/-- Two databases of the two variants with the same contents reply to one request alike, unless the
one with the index refuses a name. -/
theorem parting_handle (record : request.isRecord = true) :
    Parting request (strict.handle now request) (loose.handle now request) := by
  have complete := twins.strictSound.complete
  have complete' := twins.looseSound.complete
  cases request with
  | insert fields => exact twins.parting_insert
  | update id fields => exact twins.parting_update
  | save id fields => exact twins.parting_save
  | delete entity id => exact twins.parting_deletion entity _
  | deleteAll entity => exact twins.parting_deletion entity _
  | get entity id => exact twins.parting_replyWith (twins.get entity id) .found
  | list entity =>
      refine twins.parting_replyWith ?_ .rows
      simp only [Connection.list, read, twins.strictOn.storage, twins.looseOn.storage,
        twins.same.list complete complete']
  | count entity =>
      refine twins.parting_replyWith ?_ .count
      simp only [Connection.count, read, twins.strictOn.storage, twins.looseOn.storage,
        twins.same.count complete complete']
  | related source target route id =>
      refine twins.parting_replyWith ?_ _
      simp only [Connection.related, twins.get, read, twins.strictOn.storage,
        twins.looseOn.storage, twins.same.related complete complete']
  | _ => cases record

end Twins

end Step

/-! ## A database without the index -/

section Untaken

variable {connection : Connection} {db : Database} {now : Instant} {fields : Fields}

/-- A write that is decided without the index is not refused for a name. -/
theorem verdict_untaken {α : Type} {trial : Trial} {answer : Row → α}
    {result : Except Failure (Connection × α)}
    (verdict : Trial.Verdict .basic db trial answer result) :
    result ≠ .error (.uniqueViolation Schema.tagNameIndex) := by
  intro refused
  obtain ⟨obstacle, met, reported⟩ := verdict.decided.broken refused
  obtain rfl := Trial.failure_eq_tagNameIndex reported
  have taken : trial.Breaks .basic db .name := met
  cases taken.1

/-- Without the index of tag names a row that is saved never has its name taken. -/
theorem save_untaken (on : connection.On db) (sound : db.Sound .basic) (id : Int) :
    connection.save now id fields ≠ .error (.uniqueViolation Schema.tagNameIndex) := by
  by_cases stores : db.StoresKey fields.entity id
  · obtain ⟨old, stored, belongs, rfl⟩ := stores
    exact verdict_untaken (save_verdict on sound stored belongs)
  · have absent : notFound ≠ .uniqueViolation Schema.tagNameIndex ∧
        notUpdated ≠ .uniqueViolation Schema.tagNameIndex := by decide +kernel
    rw [save_absent on sound stores]
    intro same
    have failure := Except.error.inj same
    split at failure
    · exact absent.1 failure
    · exact absent.2 failure

/-- A reply is no refusal of a name if the result is none. -/
theorem replyTo_untaken {α : Type} {result : Except Failure (Connection × α)} {answer : α → Answer}
    (untaken : result ≠ .error (.uniqueViolation Schema.tagNameIndex))
    (answered : ∀ value, answer value ≠ .nameTaken) :
    (connection.replyTo result answer).answer ≠ .nameTaken := by
  cases result with
  | ok value => exact answered value.2
  | error failure =>
      intro taken
      exact untaken (congrArg Except.error (Answer.failed.inj taken))

/-- What is read is no refusal of a name. -/
theorem replyWith_untaken {α : Type} {result : Except Failure α} {answer : α → Answer}
    (found : ∃ value, result = .ok value) (answered : ∀ value, answer value ≠ .nameTaken) :
    (connection.replyWith result answer).answer ≠ .nameTaken := by
  obtain ⟨value, rfl⟩ := found
  exact answered value

/-- Deleting rows of a sound database is not refused for a name: it succeeds. -/
theorem delete_untaken (on : connection.On db) (sound : db.Sound .basic) (entity : Entity)
    (p : Int → Bool) :
    (connection.write fun db => db.delete entity p).mapError writeFailure ≠
      .error (.uniqueViolation Schema.tagNameIndex) := by
  rw [write_on on, Database.delete_eq sound]
  intro impossible
  cases impossible

/-- A row of a complete database can be looked up. -/
theorem exists_get (on : connection.On db) (complete : db.Complete) (entity : Entity) (id : Int) :
    ∃ row, connection.get entity id = .ok row := by
  obtain ⟨rows, listed⟩ := Database.list_of_complete complete entity
  rw [get_eq on, Database.get, listed]
  exact ⟨_, rfl⟩

/-- The rows of a complete database can be listed. -/
theorem exists_list (on : connection.On db) (complete : db.Complete) (entity : Entity) :
    ∃ rows, connection.list entity = .ok rows := by
  obtain ⟨rows, listed⟩ := Database.list_of_complete complete entity
  simp only [Connection.list, read, on.storage, listed]
  exact ⟨_, rfl⟩

/-- The rows of a complete database can be counted. -/
theorem exists_count (on : connection.On db) (complete : db.Complete) (entity : Entity) :
    ∃ number, connection.count entity = .ok number := by
  obtain ⟨rows, listed⟩ := Database.list_of_complete complete entity
  simp only [Connection.count, read, on.storage, Database.count, listed]
  exact ⟨_, rfl⟩

/-- Related rows of a complete database can be found, by any route. -/
theorem exists_related (on : connection.On db) (complete : db.Complete) (source target : Entity)
    (route : Record.Route) (id : Int) :
    ∃ rows, connection.related source target route id = .ok rows := by
  obtain ⟨row, fetched⟩ := exists_get on complete source id
  obtain ⟨rows, related⟩ := Database.related_of_complete complete source target route id
  simp only [Connection.related, fetched, read, on.storage, related]
  cases row <;> exact ⟨_, rfl⟩

/-- Without the index on tag names no request is refused for a name. -/
theorem handle_untaken (on : connection.On db) (sound : db.Sound .basic) (bounded : db.Bounded)
    {request : Request} (record : request.isRecord = true) :
    (connection.handle now request).answer ≠ .nameTaken := by
  have complete := sound.complete
  cases request with
  | insert fields =>
      rw [handle_insert_answer]
      exact replyTo_untaken (verdict_untaken (insert_verdict on sound bounded fields))
        (by simp [Answer.nameTaken])
  | update id fields =>
      by_cases stores : db.StoresKey fields.entity id
      · rw [handle_update_stored on sound stores]
        exact replyTo_untaken (save_untaken on sound _) (by simp [Answer.nameTaken])
      · rw [handle_update_absent on sound stores]
        intro impossible
        cases impossible
  | save id fields => exact replyTo_untaken (save_untaken on sound id) (by simp [Answer.nameTaken])
  | delete entity id =>
      exact replyTo_untaken (delete_untaken on sound entity _) (by simp [Answer.nameTaken])
  | deleteAll entity =>
      exact replyTo_untaken (delete_untaken on sound entity _) (by simp [Answer.nameTaken])
  | get entity id =>
      exact replyWith_untaken (exists_get on complete entity id) (by simp [Answer.nameTaken])
  | list entity =>
      exact replyWith_untaken (exists_list on complete entity) (by simp [Answer.nameTaken])
  | count entity =>
      exact replyWith_untaken (exists_count on complete entity) (by simp [Answer.nameTaken])
  | related source target route id =>
      refine replyWith_untaken (exists_related on complete source target route id) fun rows => ?_
      cases rows <;> simp [Answer.nameTaken]
  | _ => cases record

end Untaken

/-! ## Runs -/

/-- The connection after requests that are made one after the other, each at its moment. -/
def after (connection : Connection) : List (Instant × Request) → Connection
  | [] => connection
  | (now, request) :: rest => (connection.handle now request).connection.after rest

variable {strict loose connection : Connection} {now : Instant} {request : Request}
  {variant : Variant}

/-- A connection stays reachable whatever it is asked about rows. -/
theorem Reachable.handle (reachable : Reachable variant connection)
    (record : request.isRecord = true) :
    Reachable variant (connection.handle now request).connection := by
  have reads {α : Type} (result : Except Failure α) (answer : α → Answer) :
      Reachable variant (connection.replyWith result answer).connection := by
    rwa [replyWith_connection]
  cases request with
  | get _ _ | list _ | count _ | related _ _ _ _ => exact reads _ _
  | insert _ | update _ _ | save _ _ | delete _ _ | deleteAll _ =>
      exact .written now _ reachable rfl
  | _ => cases record

/-- Without the index on tag names no run is refused for a name. -/
theorem Reachable.answers_untaken (reachable : Reachable .basic loose)
    {requests : List (Instant × Request)} (records : ∀ asked ∈ requests, asked.2.isRecord = true) :
    .nameTaken ∉ loose.answers requests := by
  induction requests generalizing loose with
  | nil => exact List.not_mem_nil
  | cons asked rest inductionHypothesis =>
      obtain ⟨now, request⟩ := asked
      obtain ⟨record, others⟩ := List.forall_mem_cons.mp records
      obtain ⟨db, on, sound, bounded⟩ := reachable.keys
      exact List.not_mem_cons_of_ne_of_not_mem (handle_untaken on sound bounded record).symm
        (inductionHypothesis (reachable.handle record) others)

/-- Connections to databases of the two variants with the same contents. -/
theorem exists_twins (strictReachable : Reachable .uniqueTagName strict)
    (looseReachable : Reachable .basic loose) (same : strict.SameContents loose) :
    ∃ db other, Twins strict loose db other := by
  obtain ⟨db, strictOn, strictSound, strictBounded⟩ := strictReachable.keys
  obtain ⟨other, looseOn, looseSound, looseBounded⟩ := looseReachable.keys
  obtain ⟨first, second, firstStored, secondStored, contents⟩ := same
  cases strictOn.storage.symm.trans firstStored
  cases looseOn.storage.symm.trans secondStored
  exact ⟨db, other, strictOn, looseOn, strictSound, looseSound, strictBounded, looseBounded,
    contents⟩

/-- Databases of the two variants with the same contents are alike along a run in which no name is
refused. -/
theorem alike_of_untaken (strictReachable : Reachable .uniqueTagName strict)
    (looseReachable : Reachable .basic loose) (same : strict.SameContents loose)
    {requests : List (Instant × Request)} (records : ∀ asked ∈ requests, asked.2.isRecord = true)
    (untaken : .nameTaken ∉ strict.answers requests) :
    strict.answers requests = loose.answers requests ∧
      Reachable .uniqueTagName (strict.after requests) ∧ Reachable .basic (loose.after requests) ∧
      (strict.after requests).SameContents (loose.after requests) := by
  induction requests generalizing strict loose with
  | nil => exact ⟨rfl, strictReachable, looseReachable, same⟩
  | cons asked rest inductionHypothesis =>
      obtain ⟨now, request⟩ := asked
      obtain ⟨record, others⟩ := List.forall_mem_cons.mp records
      have first := List.ne_of_not_mem_cons untaken
      have later := List.not_mem_of_not_mem_cons untaken
      obtain ⟨db, other, twins⟩ := exists_twins strictReachable looseReachable same
      have parting : Parting request (strict.handle now request) (loose.handle now request) :=
        twins.parting_handle record
      cases parting with
      | apart taken => exact absurd taken.symm first
      | together answered contents =>
          obtain ⟨answers, left⟩ := inductionHypothesis (strictReachable.handle record)
            (looseReachable.handle record) contents others later
          exact ⟨congrArg₂ List.cons answered answers, left⟩

end Connection

end MemoStore.Store
