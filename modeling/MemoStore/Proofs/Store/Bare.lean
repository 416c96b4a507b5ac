import MemoStore.Proofs.Store.Denials
import MemoStore.Proofs.Store.Variants

/-!
# Databases without tables

A database file begins without tables. No statement about rows changes that, and neither does a
set-up that fails. The first set-up that succeeds makes a sound database of its variant
(`Database.Bare.sound`), because there is no row and no index that it could have to keep.
-/

namespace MemoStore.Store

open MemoStore.Schema (Variant)
open MemoStore.Time (Instant)

namespace Database

/-- Whether a database has no tables. -/
def Bare (db : Database) : Prop :=
  ∀ entity, db.has entity = false

/-- The empty database is bare. -/
theorem bare_empty : Database.empty.Bare := by
  intro entity
  cases entity <;> rfl

namespace Bare

variable {db after : Database}

/-- A bare database has no table of users. -/
theorem users (bare : db.Bare) : db.users = none :=
  Option.isSome_eq_false_iff.mp (bare .user) |> Option.isNone_iff_eq_none.mp

/-- A bare database has no table of memos. -/
theorem memos (bare : db.Bare) : db.memos = none :=
  Option.isSome_eq_false_iff.mp (bare .memo) |> Option.isNone_iff_eq_none.mp

/-- A bare database has no table of tags. -/
theorem tags (bare : db.Bare) : db.tags = none :=
  Option.isSome_eq_false_iff.mp (bare .tag) |> Option.isNone_iff_eq_none.mp

/-- A bare database has no table of attachments. -/
theorem attachments (bare : db.Bare) : db.attachments = none :=
  Option.isSome_eq_false_iff.mp (bare .attachment) |> Option.isNone_iff_eq_none.mp

/-- A bare database is not complete. -/
theorem incomplete (bare : db.Bare) : ¬ db.Complete := by
  intro complete
  have there := complete.tables .user
  rw [bare] at there
  cases there

/-- No statement about rows changes anything without tables. -/
theorem unchanged {now : Instant} (bare : db.Bare) (change : db.Change now after) : after = db := by
  have absent {α : Type} {table : Option α} {found : α} (none : table = none)
      (stored : table = some found) : False := by
    rw [none] at stored
    cases stored
  cases change with
  | @insert fields after row inserted =>
      refine False.elim ?_
      cases fields with
      | user fields =>
          obtain ⟨⟨_, _⟩, done, -⟩ := map_ok.mp inserted
          obtain ⟨_, stored, -⟩ := insertUser_ok done
          exact absent bare.users stored
      | memo fields =>
          obtain ⟨⟨_, _⟩, done, -⟩ := map_ok.mp inserted
          obtain ⟨_, stored, -⟩ := insertMemo_ok done
          exact absent bare.memos stored
      | tag fields =>
          obtain ⟨⟨_, _⟩, done, -⟩ := map_ok.mp inserted
          obtain ⟨_, stored, -⟩ := insertTag_ok done
          exact absent bare.tags stored
      | attachment fields =>
          obtain ⟨⟨_, _⟩, done, -⟩ := map_ok.mp inserted
          obtain ⟨_, stored, -⟩ := insertAttachment_ok done
          exact absent bare.attachments stored
  | @update id fields after count updated =>
      cases fields with
      | user fields =>
          obtain ⟨same, -⟩ | ⟨_, _, stored, -⟩ := updateUser_ok updated
          · exact same
          · exact (absent bare.users stored).elim
      | memo fields =>
          obtain ⟨same, -⟩ | ⟨_, _, _, stored, -⟩ := updateMemo_ok updated
          · exact same
          · exact (absent bare.memos stored).elim
      | tag fields =>
          obtain ⟨same, -⟩ | ⟨_, _, stored, -⟩ := updateTag_ok updated
          · exact same
          · exact (absent bare.tags stored).elim
      | attachment fields =>
          obtain ⟨same, -⟩ | ⟨_, _, stored, -⟩ := updateAttachment_ok updated
          · exact same
          · exact (absent bare.attachments stored).elim
  | @delete entity p after count deleted =>
      have refused : db.requireTable entity = .error (.noTable entity.table) := by
        rw [requireTable, bare]
        rfl
      unfold Database.delete at deleted
      rw [refused] at deleted
      cases deleted

/-- What completes a database without tables leaves a sound one. -/
theorem sound {variant : Variant} (bare : db.Bare) (complete : after.Complete)
    (extended : db.Extends after)
    (index : after.uniqueTagNames = (db.uniqueTagNames || variant.hasTagNameIndex)) :
    after.Sound variant := by
  have contents : SameContents {} db := by
    constructor
    · simp [userTable, bare.users]
    · simp [memoTable, bare.memos]
    · simp [tagTable, bare.tags]
    · simp [attachmentTable, bare.attachments]
  have absent : db.uniqueTagNames = false := by simp [uniqueTagNames, bare.tags]
  rw [absent, Bool.false_or] at index
  exact sound_of_empty (contents.trans extended.toSameContents) complete index

end Bare

end Database

namespace Connection

variable {connection next : Connection} {db : Database} {now : Instant}

/-- A request about rows runs one statement over a connection, or none. -/
theorem step_record {request : Request} (record : request.isRecord = true) :
    Step now connection (connection.handle now request).connection := by
  have reads {α : Type} (result : Except Failure α) (answer : α → Answer) :
      Step now connection (connection.replyWith result answer).connection := by
    cases result <;> exact .unchanged
  cases request with
  | get _ _ | list _ | count _ | related _ _ _ _ => exact reads _ _
  | insert _ | update _ _ | save _ _ | delete _ _ | deleteAll _ => exact step_handle rfl
  | _ => cases record

/-- A schema is set up in a database without tables, if it may be changed. -/
theorem setUp_bare (on : connection.On db) (bare : db.Bare) (variant : Variant) :
    (connection.setUp variant).result = .ok true := by
  rcases setUp_incomplete on bare.incomplete variant with
    ⟨_, created, -⟩ | ⟨-, -, -, first, second, within, -⟩
  · exact created
  · rw [Database.tagTable, bare.tags] at within
    cases within.subset List.mem_cons_self

/-- What a step leaves stored. -/
theorem Step.stored (step : Step now connection next)
    (stored : connection.storage = .database db) :
    next.storage = .database db ∨
      ∃ after, next.storage = .database after ∧ db.Change now after := by
  cases step with
  | unchanged => exact .inl stored
  | @changed other after on change =>
      obtain rfl : other = db := Storage.database.inj (on.storage.symm.trans stored)
      exact .inr ⟨after, rfl, change⟩

/-- What every statement keeps, a request about rows keeps, whether or not it may change
anything. -/
theorem stored_record {p : Database → Prop} (changed : ∀ after, db.Change now after → p after)
    {request : Request} (record : request.isRecord = true)
    (stored : connection.storage = .database db) (holds : p db) :
    ∃ after, (connection.handle now request).connection.storage = .database after ∧ p after := by
  have step : Step now connection (connection.handle now request).connection := step_record record
  rcases step.stored stored with same | ⟨after, left, change⟩
  · exact ⟨db, same, holds⟩
  · exact ⟨after, left, changed after change⟩

end Connection

end MemoStore.Store
