import MemoStore.Proofs.Store.Deletions
import MemoStore.Proofs.Store.SetUp
import MemoStore.Store.Request

/-!
# Runs of writes

The connections that a client can be left with: the schema is set up over an empty
database, and then rows are written by any requests at any moments, whether or not they
succeed. `Reachable.sound` carries the integrity of the rows along every such run, and
`Reachable.integrity` says what that means for the four tables.
-/

namespace MemoStore.Store

open MemoStore.Record (Entity Fields)
open MemoStore.Schema (Variant)
open MemoStore.Time (Instant)

/-- Whether a request writes rows. -/
def Request.isWrite : Request → Bool
  | .insert _ | .update _ _ | .save _ _ | .delete _ _ | .deleteAll _ => true
  | _ => false

/-- What a single statement can make of the rows of a database. -/
inductive Database.Change (now : Instant) (db : Database) : Database → Prop where
  | insert {fields : Fields} {after : Database} {row : Row} :
      db.insert now fields = .ok (after, row) → Change now db after
  | update {id : Int} {fields : Fields} {after : Database} {count : Nat} :
      db.update now id fields = .ok (after, count) → Change now db after
  | delete {entity : Entity} {p : Int → Bool} {after : Database} {count : Nat} :
      db.delete entity p = .ok (after, count) → Change now db after

/-- Every statement keeps a database sound. -/
theorem Database.Sound.change {variant : Variant} {db after : Database} {now : Instant}
    (sound : db.Sound variant) (change : db.Change now after) : after.Sound variant := by
  cases change with
  | insert inserted => exact sound.insert inserted
  | update updated => exact sound.update updated
  | delete deleted => exact sound.delete deleted

/-- A database in which the schema of a variant was just set up. -/
def Database.fresh (variant : Variant) (keepsKeys : Bool) : Database where
  users := some {}
  memos := some { touches := true }
  tags := some { uniqueNames := variant.hasTagNameIndex }
  attachments := some {}
  keepsKeys := keepsKeys

/-- A complete database without rows is that of its variant. -/
theorem Database.eq_fresh {variant : Variant} {db : Database} (complete : db.Complete)
    (contents : SameContents {} db) (index : db.uniqueTagNames = variant.hasTagNameIndex) :
    db = fresh variant db.keepsKeys := by
  have users := users_of_has (complete.tables .user)
  obtain ⟨memos, memosStored, memoTable⟩ := memos_of_has (complete.tables .memo)
  obtain ⟨tags, tagsStored, tagTable⟩ := tags_of_has (complete.tables .tag)
  have attachments := attachments_of_has (complete.tables .attachment)
  have touches : memos.touches = true := by
    simpa [touchesMemos, memosStored] using complete.trigger
  rw [uniqueTagNames_of_stored tagsStored] at index
  rw [contents.users] at users
  rw [contents.memos] at memoTable
  rw [contents.tags] at tagTable
  rw [contents.attachments] at attachments
  obtain ⟨memoRows, _⟩ := memos
  obtain ⟨tagRows, _⟩ := tags
  cases memoTable
  cases tagTable
  cases touches
  cases index
  cases db
  cases users
  cases memosStored
  cases tagsStored
  cases attachments
  rfl

namespace Connection

/-- A connection that one statement has been run over, or none. -/
inductive Step (now : Instant) (connection : Connection) : Connection → Prop where
  | unchanged : Step now connection connection
  | changed {db after : Database} :
      connection.On db → db.Change now after → Step now connection (connection.wrote after)

variable {connection next : Connection} {now : Instant}

/-- A write is a step when its statement is a change of the database. -/
theorem step_of_write {α : Type} {statement : Database → Except Refusal (Database × α)}
    {value : α} (written : connection.write statement = .ok (next, value))
    (change : ∀ db after, statement db = .ok (after, value) → db.Change now after) :
    Step now connection next := by
  obtain ⟨db, after, on, performed, rfl⟩ := write_ok written
  exact .changed on (change db after performed)

/-- What only reads leaves the connection as it was. -/
@[simp] theorem replyWith_connection {α : Type} (result : Except Failure α)
    (answer : α → Answer) : (connection.replyWith result answer).connection = connection := by
  cases result <;> rfl

/-- A reply that comes from a step leaves one, and a failure leaves nothing. -/
theorem step_replyTo {α : Type} {result : Except Failure (Connection × α)}
    {answer : α → Answer}
    (step : ∀ next value, result = .ok (next, value) → Step now connection next) :
    Step now connection (connection.replyTo result answer).connection := by
  unfold replyTo
  split
  · rename_i next value
    exact step next value rfl
  · exact .unchanged

/-- Reading a row back leaves the connection as it was. -/
theorem eq_of_readBack {entity : Entity} {id : Int} {row : Row}
    (found : connection.readBack entity id = .ok (next, row)) : next = connection := by
  unfold readBack at found
  split at found <;> cases found
  rfl

/-- Saving a row is a step. -/
theorem step_save {id : Int} {fields : Fields} {row : Row}
    (saved : connection.save now id fields = .ok (next, row)) : Step now connection next := by
  unfold save at saved
  split at saved
  · rw [eq_of_readBack saved]
    exact .unchanged
  · split at saved
    · cases saved
    · cases saved
    · rename_i left count written
      rw [eq_of_readBack saved]
      exact step_of_write written fun db after => .update

/-- An update is a step, whether it finds a row or not. -/
theorem step_update {id : Int} {fields : Fields} {row : Option Row}
    (updated : connection.update now id fields = .ok (next, row)) : Step now connection next := by
  obtain ⟨found, -, updated⟩ := bind_ok.mp updated
  cases found with
  | none =>
      cases updated
      exact .unchanged
  | some before =>
      obtain ⟨⟨left, after⟩, saved, same⟩ := bind_ok.mp updated
      cases same
      exact step_save saved

/-- A request that writes runs one statement over a connection, or none. -/
theorem step_handle {request : Request} (writes : request.isWrite = true) :
    Step now connection (connection.handle now request).connection := by
  cases request with
  | insert fields =>
      rcases storing : connection.store now fields with failure | ⟨next, row⟩
      · rw [handle, storing]
        exact .unchanged
      · rw [handle, storing, replyWith_connection]
        exact step_of_write (mapError_ok.mp storing) fun db after => .insert
  | update id fields => exact step_replyTo fun next row => step_update
  | save id fields => exact step_replyTo fun next row => step_save
  | delete entity id =>
      refine step_replyTo fun next count deleted => ?_
      exact step_of_write (mapError_ok.mp deleted) fun db after => .delete
  | deleteAll entity =>
      refine step_replyTo fun next count deleted => ?_
      exact step_of_write (mapError_ok.mp deleted) fun db after => .delete
  | _ => cases writes

/-- A connection after a schema was set up where there was none, and rows were written. -/
inductive Reachable (variant : Variant) : Connection → Prop where
  | created {connection : Connection} :
      connection.On .empty → Reachable variant (connection.setUp variant).state
  | written {connection : Connection} (now : Instant) (request : Request) :
      Reachable variant connection → request.isWrite = true →
        Reachable variant (connection.handle now request).connection

/-- Setting up the schema where there is none gives a database without rows, with the index
on tag names in the variant that has it. -/
theorem setUp_empty (variant : Variant) (on : connection.On .empty) :
    ∃ db, (connection.setUp variant).state.On db ∧ db.Complete ∧
      Database.SameContents {} db ∧ db.uniqueTagNames = variant.hasTagNameIndex := by
  have incomplete : ¬ Database.empty.Complete := fun complete => by cases complete.trigger
  rcases setUp_incomplete on incomplete variant with
    ⟨db, -, dbOn, complete, extended, index, -⟩ | ⟨-, -, -, first, second, within, -⟩
  · refine ⟨db, dbOn, complete, extended.toSameContents, ?_⟩
    rw [index]
    rfl
  · have member := within.subset List.mem_cons_self
    cases member

/-- Setting up the schema where there is none leaves a connection to a fresh database. -/
theorem setUp_eq_fresh (variant : Variant) (on : connection.On .empty) :
    ∃ keepsKeys changed saved, (connection.setUp variant).state =
      { storage := .database (.fresh variant keepsKeys), changed := changed, saved := saved } := by
  obtain ⟨db, leftOn, complete, contents, index⟩ := setUp_empty variant on
  let left := (connection.setUp variant).state
  refine ⟨db.keepsKeys, left.changed, left.saved, ?_⟩
  rw [← Database.eq_fresh complete contents index, ← leftOn.storage, ← leftOn.writable]

/-- What holds of every connection to a fresh database, holds after a set-up where there was
nothing. -/
@[elab_as_elim]
theorem setUp_cases {motive : Connection → Prop} (variant : Variant) (on : connection.On .empty)
    (fresh : ∀ keepsKeys changed saved,
      let left : Connection :=
        { storage := .database (.fresh variant keepsKeys), changed := changed, saved := saved }
      Reachable variant left → motive left) :
    motive (connection.setUp variant).state := by
  obtain ⟨keepsKeys, changed, saved, same⟩ := setUp_eq_fresh variant on
  have reachable : Reachable variant (connection.setUp variant).state := .created on
  rw [same] at reachable ⊢
  exact fresh keepsKeys changed saved reachable

/-- What every statement keeps, a step keeps. -/
theorem Step.keeps {p : Database → Prop}
    (changed : ∀ db after, p db → db.Change now after → p after) (step : Step now connection next)
    (before : ∃ db, connection.On db ∧ p db) : ∃ db, next.On db ∧ p db := by
  obtain ⟨db, on, holds⟩ := before
  cases step with
  | unchanged => exact ⟨db, on, holds⟩
  | @changed other after otherOn change =>
      have same : other = db := Storage.database.inj (otherOn.storage.symm.trans on.storage)
      exact ⟨after, ⟨rfl, on.writable⟩, changed db after holds (same ▸ change)⟩

/-- What holds without rows and what every statement keeps, holds of every reachable
database. -/
theorem Reachable.keeps {variant : Variant} {p : Database → Prop}
    (empty : ∀ db, db.Complete → Database.SameContents {} db →
      db.uniqueTagNames = variant.hasTagNameIndex → p db)
    (changed : ∀ now db after, p db → Database.Change now db after → p after)
    (reachable : Reachable variant connection) : ∃ db, connection.On db ∧ p db := by
  induction reachable with
  | created on =>
      obtain ⟨db, dbOn, complete, contents, index⟩ := setUp_empty variant on
      exact ⟨db, dbOn, empty db complete contents index⟩
  | written now request reachable writes inductionHypothesis =>
      exact (step_handle writes).keeps (changed now) inductionHypothesis

/-- Every reachable connection is to a sound database. -/
theorem Reachable.sound {variant : Variant} (reachable : Reachable variant connection) :
    ∃ db, connection.On db ∧ db.Sound variant :=
  reachable.keeps (fun _ complete contents => Database.sound_of_empty contents complete)
    fun _ _ _ => Database.Sound.change

/-- The rows of a reachable database, whatever was written to it: keys and codes are
distinct, references lead to stored rows, a tag is official or has an owner, and personal
tags of a user differ in name where the variant demands it. -/
theorem Reachable.integrity {variant : Variant} (reachable : Reachable variant connection) :
    ∃ db, connection.storage = .database db ∧ (∀ entity, db.has entity = true) ∧
      (db.userTable.rows.map User.id).Nodup ∧ (db.memoTable.rows.map Memo.id).Nodup ∧
      (db.tagTable.rows.map Tag.id).Nodup ∧ (db.attachmentTable.rows.map Attachment.id).Nodup ∧
      (db.userTable.rows.map User.code).Nodup ∧
      (∀ memo ∈ db.memoTable.rows, ∃ user ∈ db.userTable.rows, user.id = memo.userId) ∧
      (∀ tag ∈ db.tagTable.rows,
        (tag.isOfficial = true ∧ tag.userId = none) ∨
          (tag.isOfficial = false ∧ ∃ user ∈ db.userTable.rows, tag.userId = some user.id)) ∧
      (∀ attachment ∈ db.attachmentTable.rows,
        (∃ memo ∈ db.memoTable.rows, memo.id = attachment.memoId) ∧
          ∃ tag ∈ db.tagTable.rows, tag.id = attachment.tagId) ∧
      (variant = .uniqueTagName → db.tagTable.rows.Pairwise fun first second =>
        first.isOfficial = false → second.isOfficial = false →
          ¬ (first.name = second.name ∧ first.userId = second.userId)) := by
  obtain ⟨db, on, sound⟩ := reachable.sound
  refine ⟨db, on.storage, sound.complete.tables, List.pairwise_map.mpr sound.userKeys,
    List.pairwise_map.mpr sound.memoKeys, List.pairwise_map.mpr sound.tagKeys,
    List.pairwise_map.mpr sound.attachmentKeys, List.pairwise_map.mpr sound.codes,
    sound.memoOwners, ?_, ?_, ?_⟩
  · intro tag member
    rcases ownerRule_iff.mp (sound.tagRule tag member) with official | ⟨personal, owner, given⟩
    · exact .inl official
    · obtain ⟨user, stored, rfl⟩ := sound.tagOwners tag member owner given
      exact .inr ⟨personal, user, stored, given⟩
  · intro attachment member
    exact ⟨sound.attachedMemos attachment member, sound.attachedTags attachment member⟩
  · intro unique
    have index : db.uniqueTagNames = true := by rw [sound.index, unique]; rfl
    refine (sound.tagNames index).imp_of_mem fun {first second} member _ different => ?_
    rintro firstPersonal secondPersonal ⟨name, owner⟩
    -- A personal tag has an owner, so the two would have the same name in the same scope.
    have owned : first.userId ≠ none := by
      rcases ownerRule_iff.mp (sound.tagRule first member) with ⟨official, -⟩ | ⟨-, user, given⟩
      · rw [firstPersonal] at official
        cases official
      · simp [given]
    have same := Database.sameName_iff.mpr
      ⟨name, firstPersonal.trans secondPersonal.symm, owner, owned⟩
    rw [same] at different
    cases different

/-- After a user with a personal tag came and went, every tag that has an owner has a stored
one. -/
theorem Reachable.integrity_user_gone :
    let fresh := ((toDatabase .empty).setUp .uniqueTagName).state
    let user := Request.insert (.user { name := some "a", code := some "A" })
    let tag := Request.insert (.tag (.personal "x" 1))
    let last := (((fresh.handle ⟨0, 0⟩ user).connection.handle ⟨1, 0⟩ tag).connection.handle ⟨2, 0⟩
      (.delete .user 1)).connection
    ∃ db, last.storage = .database db ∧ ∀ tag ∈ db.tagTable.rows, ∀ owner, tag.userId = some owner →
      ∃ user ∈ db.userTable.rows, user.id = owner := by
  intro fresh user tag last
  have reachable : Reachable .uniqueTagName last :=
    .written _ _ (.written _ _ (.written _ _ (.created ⟨rfl, rfl⟩) rfl) rfl) rfl
  obtain ⟨db, storage, -, -, -, -, -, -, -, rule, -, -⟩ := reachable.integrity
  refine ⟨db, storage, fun tag member owner given => ?_⟩
  rcases rule tag member with ⟨-, unowned⟩ | ⟨-, user, stored, owned⟩
  · rw [given] at unowned
    cases unowned
  · exact ⟨user, stored, Option.some.inj (owned.symm.trans given)⟩

end Connection

end MemoStore.Store
