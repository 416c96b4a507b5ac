import MemoStore.Proofs.Store.Variants

/-!
# Keys along a run

The engine gives a new row a key that is larger than every key that was ever inserted into its
table, whether or not the row of that key is still there. `Connection.inserted` collects the rows
that the insertions of a run stored, those that were withheld from the client among them. What a
table remembers is the largest of their keys: `lastKey_handle` says so of one request and
`Reachable.lastKey_after` of every run. `keys_ascend` says what that means for the next insertion.
-/

namespace MemoStore.Store

open MemoStore.Record (Entity Fields)
open MemoStore.Schema (Variant)
open MemoStore.Time (Instant)

/-! ## The largest key -/

/-- The largest key among the rows of an entity, and `bound` if none is larger. -/
def largestKey (kind : Entity) (bound : Int) (rows : List Row) : Int :=
  rows.foldl (fun key row => if row.entity = kind then max key row.key else key) bound

/-- The largest key of two lists of rows is found in one after the other. -/
theorem largestKey_append (kind : Entity) (bound : Int) (rows others : List Row) :
    largestKey kind bound (rows ++ others) =
      largestKey kind (largestKey kind bound rows) others :=
  List.foldl_append

/-- No key of the entity is larger, and neither is the bound. -/
theorem le_largestKey (kind : Entity) (bound : Int) (rows : List Row) :
    bound ≤ largestKey kind bound rows ∧
      ∀ row ∈ rows, row.entity = kind → row.key ≤ largestKey kind bound rows := by
  induction rows generalizing bound with
  | nil => exact ⟨Int.le_refl _, fun _ member => absurd member List.not_mem_nil⟩
  | cons first rest inductionHypothesis =>
      obtain ⟨reached, others⟩ :=
        inductionHypothesis (if first.entity = kind then max bound first.key else bound)
      refine ⟨Int.le_trans ?_ reached,
        List.forall_mem_cons.mpr ⟨fun belongs => Int.le_trans ?_ reached, others⟩⟩
      · split
        · exact Int.le_max_left _ _
        · exact Int.le_refl _
      · rw [if_pos belongs]
        exact Int.le_max_right _ _

namespace Database

/-- The largest key that the table of an entity ever held. -/
def lastKey (db : Database) : Entity → Int
  | .user => db.userTable.lastKey
  | .memo => db.memoTable.lastKey
  | .tag => db.tagTable.lastKey
  | .attachment => db.attachmentTable.lastKey

variable {variant : Variant} {db after : Database} {now : Instant} {fields : Fields}

/-- The next key is one behind the last. -/
theorem nextKey_eq (kind : Entity) : db.nextKey kind = db.lastKey kind + 1 := by
  cases kind <;> rfl

/-- A table remembers the key of a row that is added to it. -/
theorem lastKey_adding (complete : db.Complete) (row : Row) (kind : Entity) :
    (db.adding row).lastKey kind = largestKey kind (db.lastKey kind) [row] := by
  obtain ⟨users, usersStored⟩ := Option.isSome_iff_exists.mp (complete.tables .user)
  obtain ⟨memos, memosStored, -⟩ := memos_of_has (complete.tables .memo)
  obtain ⟨tags, tagsStored, -⟩ := tags_of_has (complete.tables .tag)
  obtain ⟨attachments, attachmentsStored⟩ :=
    Option.isSome_iff_exists.mp (complete.tables .attachment)
  cases row <;> cases kind <;>
    simp [adding, lastKey, largestKey, Row.entity, Row.key, userTable, memoTable, tagTable,
      attachmentTable, Table.add, Keyed.key, usersStored, memosStored, tagsStored,
      attachmentsStored]

/-- A row that takes the place of another one brings no key. -/
theorem lastKey_replacing (row : Row) (kind : Entity) :
    (db.replacing row).lastKey kind = db.lastKey kind := by
  cases row with
  | user row =>
      cases stored : db.users <;> cases kind <;>
        simp [replacing, lastKey, userTable, memoTable, tagTable, attachmentTable, Table.replace,
          stored]
  | memo row =>
      cases stored : db.memos <;> cases kind <;>
        simp [replacing, lastKey, userTable, memoTable, tagTable, attachmentTable, Table.replace,
          stored]
  | tag row =>
      cases stored : db.tags <;> cases kind <;>
        simp [replacing, lastKey, userTable, memoTable, tagTable, attachmentTable, Table.replace,
          stored]
  | attachment row =>
      cases stored : db.attachments <;> cases kind <;>
        simp [replacing, lastKey, userTable, memoTable, tagTable, attachmentTable, Table.replace,
          stored]

/-- A table remembers the keys of the rows that it lost. -/
theorem Lost.lastKey {f : Row → Bool} (lost : Lost db after f) (kind : Entity) :
    after.lastKey kind = db.lastKey kind := by
  cases kind <;>
    simp only [Database.lastKey, lost.users, lost.memos, lost.tags, lost.attachments, Table.remove]

end Database

/-- A new row has the key that it brings, or else the next one of its table. -/
theorem Trial.insertion_key {db : Database} {now : Instant} {fields : Fields} :
    (Trial.insertion db now fields).row.key = fields.id?.getD (db.nextKey fields.entity) := by
  cases fields <;> rfl

/-! ## Insertions of a run -/

namespace Connection

/-- The row that a request stores, if it is an insertion that the engine lets through. -/
def inserted? (connection : Connection) (now : Instant) : Request → Option Row
  | .insert fields => (connection.store now fields).toOption.map Prod.snd
  | _ => none

/-- The rows that the insertions of a run stored, in their order. -/
def inserted (connection : Connection) : List (Instant × Request) → List Row
  | [] => []
  | (now, request) :: rest =>
    (connection.inserted? now request).toList ++
      (connection.handle now request).connection.inserted rest

variable {variant : Variant} {connection : Connection} {db : Database} {now : Instant}
  {fields : Fields} {request : Request}

/-- An insertion that the engine refuses leaves nothing behind. Otherwise it leaves the row added,
with the key that it brings or else the next one of its table, and hands it out or withholds it. -/
theorem handle_insert (on : connection.On db) (sound : db.Sound variant) (bounded : db.Bounded)
    (now : Instant) (fields : Fields) :
    let reply := connection.handle now (.insert fields)
    (∃ failure, reply.answer = .failed failure ∧ reply.connection = connection ∧
        connection.inserted? now (.insert fields) = none) ∨
      ∃ row, connection.inserted? now (.insert fields) = some row ∧
        (reply.answer = .row row ∨ reply.Withholds fields row) ∧
        reply.connection = connection.wrote (db.adding row) ∧ row.entity = fields.entity ∧
        row.key = fields.id?.getD (db.nextKey fields.entity) ∧ reply.connection.Stores row := by
  intro reply
  have written := write_on on fun db => db.insert now fields
  cases done : db.insert now fields with
  | error refusal =>
      have same : reply = { connection := connection, answer := .failed (writeFailure refusal) } :=
        handle_insert_refused on done
      rw [done] at written
      exact .inl ⟨writeFailure refusal, by rw [same], by rw [same], by
        rw [inserted?, store, written]
        rfl⟩
  | ok result =>
      obtain ⟨after, row⟩ := result
      obtain ⟨left, told⟩ := handed_or_withheld on sound bounded done
      obtain ⟨-, made, stored⟩ := (db.insert_decided sound bounded fields).kept done
      have same : row = (Trial.insertion db now fields).row := made
      obtain ⟨rfl, -⟩ := Database.insert_adds done
      rw [done] at written
      refine .inr ⟨row, ?_, told, left, ?_, ?_, db.adding row, ?_, same ▸ stored⟩
      · rw [inserted?, store, written]
        rfl
      · rw [same, Trial.insertion_entity]
      · rw [same, Trial.insertion_key]
      · rw [left]
        rfl

/-- Whether a reply leaves a database in which every table remembers the key that it remembered. -/
def KeepsKeys (db : Database) (reply : Reply) : Prop :=
  ∃ after, reply.connection.On after ∧ ∀ kind, after.lastKey kind = db.lastKey kind

/-- A reply that leaves the connection as it was keeps the keys. -/
theorem KeepsKeys.of_eq {reply : Reply} (on : connection.On db)
    (same : reply.connection = connection) : KeepsKeys db reply :=
  ⟨db, same ▸ on, fun _ => rfl⟩

/-- Setting columns of a row brings no key. -/
theorem keepsKeys_save (on : connection.On db) (sound : db.Sound variant) (id : Int) :
    KeepsKeys db (connection.replyTo (connection.save now id fields) .row) := by
  have saved := saving on sound now id fields
  generalize connection.replyTo (connection.save now id fields) .row = reply at saved ⊢
  cases saved with
  | refused | absent | unchanged => exact .of_eq on rfl
  | changed => exact ⟨_, on.wrote _, db.lastKey_replacing _⟩

/-- A request about rows that is no insertion brings no key. -/
theorem keepsKeys_handle (on : connection.On db) (sound : db.Sound variant) (now : Instant)
    (record : request.isRecord = true) (other : ∀ fields, request ≠ .insert fields) :
    KeepsKeys db (connection.handle now request) := by
  have deleted (entity : Entity) (p : Int → Bool) :
      KeepsKeys db (connection.replyTo
        ((connection.write fun db => db.delete entity p).mapError writeFailure) .affected) := by
    rw [write_on on, Database.delete_eq sound]
    exact ⟨_, on.wrote _, (Database.lost_removeRows sound.toLinked entity p).lastKey⟩
  have read {α : Type} (result : Except Failure α) (answer : α → Answer) :
      KeepsKeys db (connection.replyWith result answer) :=
    .of_eq on (replyWith_connection result answer)
  cases request with
  | insert fields => exact absurd rfl (other fields)
  | update id fields =>
      by_cases stores : db.StoresKey fields.entity id
      · rw [handle_update_stored on sound stores]
        exact keepsKeys_save on sound _
      · rw [handle_update_absent on sound stores]
        exact .of_eq on rfl
  | save id fields => exact keepsKeys_save on sound id
  | delete entity id => exact deleted entity _
  | deleteAll entity => exact deleted entity _
  | get _ _ | list _ | count _ | related _ _ _ _ => exact read _ _
  | _ => cases record

/-- After a request about rows, every table remembers the largest key that it remembered before
or was given by the request. -/
theorem lastKey_handle (on : connection.On db) (sound : db.Sound variant) (bounded : db.Bounded)
    (now : Instant) (record : request.isRecord = true) :
    ∃ after, (connection.handle now request).connection.On after ∧ ∀ kind, after.lastKey kind =
      largestKey kind (db.lastKey kind) (connection.inserted? now request).toList := by
  by_cases insertion : ∃ fields, request = .insert fields
  · obtain ⟨fields, rfl⟩ := insertion
    rcases handle_insert on sound bounded now fields with
      ⟨failure, -, same, none⟩ | ⟨row, some, -, left, -⟩
    · exact ⟨db, by rwa [same], fun kind => by rw [none]; rfl⟩
    · refine ⟨db.adding row, left ▸ on.wrote _, fun kind => ?_⟩
      rw [some]
      exact db.lastKey_adding sound.complete row kind
  · have other : ∀ fields, request ≠ .insert fields := fun fields same => insertion ⟨fields, same⟩
    obtain ⟨after, left, keys⟩ := keepsKeys_handle on sound now record other
    refine ⟨after, left, fun kind => (keys kind).trans ?_⟩
    cases request with
    | insert fields => exact absurd rfl (other fields)
    | _ => rfl

/-- After a run of requests about rows, every table remembers the largest key that it remembered
before or was given in the run. -/
theorem Reachable.lastKey_after (reachable : Reachable variant connection) (on : connection.On db)
    {requests : List (Instant × Request)} (records : ∀ asked ∈ requests, asked.2.isRecord = true) :
    Reachable variant (connection.after requests) ∧
      ∃ last, (connection.after requests).On last ∧ ∀ kind, last.lastKey kind =
        largestKey kind (db.lastKey kind) (connection.inserted requests) := by
  induction requests generalizing connection db with
  | nil => exact ⟨reachable, db, on, fun _ => rfl⟩
  | cons asked rest inductionHypothesis =>
      obtain ⟨now, request⟩ := asked
      obtain ⟨record, others⟩ := List.forall_mem_cons.mp records
      obtain ⟨other, otherOn, sound, bounded⟩ := reachable.keys
      cases on.storage.symm.trans otherOn.storage
      obtain ⟨after, afterOn, keys⟩ := lastKey_handle on sound bounded now record
      obtain ⟨lastReachable, last, lastOn, lastKeys⟩ :=
        inductionHypothesis (reachable.handle record) afterOn others
      refine ⟨lastReachable, last, lastOn, fun kind => ?_⟩
      rw [lastKeys, keys, inserted, largestKey_append]

/-- A key is never given twice. After every run from a database without rows, an insertion that
brings no key stores its row under a key that is one more than the largest one that was ever
inserted into the table, and so larger than all of them, whatever became of their rows. An
insertion that fails uses up no key: it leaves everything as it was. Only behind the largest key
that a client can hold is a row stored while the client is told of a failure. -/
theorem keys_ascend (on : connection.On .empty) (variant : Variant)
    {requests : List (Instant × Request)} (records : ∀ asked ∈ requests, asked.2.isRecord = true)
    (now : Instant) (fields : Fields) :
    let fresh := (connection.setUp variant).state
    let last := fresh.after requests
    let reply := last.handle now (.insert fields)
    (∃ failure, reply.answer = .failed failure ∧ reply.connection = last) ∨
      (∃ row, reply.answer = .row row ∧ reply.connection.Stores row ∧ row.entity = fields.entity ∧
        (∀ key, fields.id? = some key → row.key = key) ∧
        (fields.id? = none →
          row.key = largestKey fields.entity 0 (fresh.inserted requests) + 1 ∧
            ∀ earlier ∈ fresh.inserted requests, earlier.entity = fields.entity →
              earlier.key < row.key)) ∨
      ∃ row, reply.Withholds fields row ∧
        row.key = largestKey fields.entity 0 (fresh.inserted requests) + 1 ∧
        maxKey ≤ largestKey fields.entity 0 (fresh.inserted requests) := by
  intro fresh last reply
  have reachable : Reachable variant fresh := .created on
  obtain ⟨db, freshOn, -, contents, -⟩ := setUp_empty variant on
  obtain ⟨lastReachable, after, afterOn, keys⟩ := reachable.lastKey_after freshOn records
  have zero : db.lastKey fields.entity = 0 := by
    cases fields.entity <;>
      simp only [Database.lastKey, contents.users, contents.memos, contents.tags,
        contents.attachments] <;> rfl
  obtain ⟨other, otherOn, sound, bounded⟩ := lastReachable.keys
  cases afterOn.storage.symm.trans otherOn.storage
  rcases handle_insert afterOn sound bounded now fields with
    ⟨failure, failed, same, -⟩ | ⟨row, -, told, -, belongs, key, stored⟩
  · exact .inl ⟨failure, failed, same⟩
  have next (brings : fields.id? = none) :
      row.key = largestKey fields.entity 0 (fresh.inserted requests) + 1 := by
    rw [key, brings, Option.getD_none, Database.nextKey_eq, keys, zero]
  rcases told with given | withheld
  · refine .inr (.inl ⟨row, given, stored, belongs, fun brought brings => ?_, fun brings => ?_⟩)
    · rw [key, brings, Option.getD_some]
    · refine ⟨next brings, fun earlier member kind => ?_⟩
      have within := (le_largestKey fields.entity 0 (fresh.inserted requests)).2 earlier member kind
      rw [next brings]
      exact Int.lt_add_one_of_le within
  · have large := withheld.large
    rw [next withheld.assigned] at large
    exact .inr (.inr ⟨row, withheld, next withheld.assigned, Int.le_of_lt_add_one large⟩)

/-- A user who comes after another one went does not get the key of that one. -/
theorem keys_ascend_deleted :
    let fresh := ((toDatabase .empty).setUp .basic).state
    let gone := [((⟨0, 0⟩ : Instant),
        Request.insert (.user { name := some "a", code := some "A" })),
      (⟨1, 0⟩, .delete .user 1)]
    let next := (fresh.after gone).handle ⟨2, 0⟩
      (.insert (.user { name := some "b", code := some "B" }))
    next.answer = .row (.user ⟨2, "b", "B"⟩) ∧
      ∀ earlier ∈ fresh.inserted gone, earlier.entity = .user → earlier.key < 2 := by
  have empty : (toDatabase .empty).On .empty := ⟨rfl, rfl⟩
  have records : ∀ asked ∈ [((⟨0, 0⟩ : Instant),
      Request.insert (.user { name := some "a", code := some "A" })), (⟨1, 0⟩, .delete .user 1)],
      asked.2.isRecord = true := by simp [Request.isRecord]
  have ascending := keys_ascend empty .basic records ⟨2, 0⟩
    (.user { name := some "b", code := some "B" })
  revert ascending
  refine setUp_cases .basic empty fun keepsKeys changed saved _ ascending => ?_
  intro fresh gone next
  have answered : next.answer = .row (.user ⟨2, "b", "B"⟩) := rfl
  refine ⟨answered, ?_⟩
  rcases ascending with
    ⟨failure, failed, -⟩ | ⟨row, stored, -, -, -, ascends⟩ | ⟨row, withheld, -⟩
  · cases answered.symm.trans failed
  · cases answered.symm.trans stored
    exact (ascends rfl).2
  · cases answered.symm.trans withheld.answer

end Connection

end MemoStore.Store
