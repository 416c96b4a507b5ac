import MemoStore.Proofs.Schema.Transactions
import MemoStore.Proofs.Store.Completion
import MemoStore.Store.Connection

/-!
# Writing over a connection

What a write leaves of a connection: only what is stored changes, and only if nothing is
refused. A rollback therefore finds the storage as it was when the transaction began.
-/

namespace MemoStore.Store.Connection

open MemoStore.Schema (Object)

variable {α : Type} {connection next : Connection} {db : Database}

/-- A connection to a database that may be changed. -/
structure On (connection : Connection) (db : Database) : Prop where
  storage : connection.storage = .database db
  writable : connection.denial = none

/-- The connection after a write that left a database. -/
def wrote (connection : Connection) (after : Database) : Connection :=
  { connection with storage := .database after, changed := true }

/-- A connection that wrote is on what it wrote. -/
theorem On.wrote (on : connection.On db) (after : Database) : (connection.wrote after).On after :=
  ⟨rfl, on.writable⟩

/-- A write that succeeds lets the statement take effect on the database, and nothing else. -/
theorem write_ok {statement : Database → Except Refusal (Database × α)} {value : α}
    (written : connection.write statement = .ok (next, value)) :
    ∃ db after, connection.On db ∧ statement db = .ok (after, value) ∧
      next = connection.wrote after := by
  unfold write at written
  split at written
  · cases written
  · rename_i db stored
    split at written
    · cases written
    · rename_i after result performed
      split at written
      · cases written
      · rename_i writable
        cases written
        exact ⟨db, after, ⟨stored, writable⟩, performed, rfl⟩

/-- A write to a database that may be changed is what the statement makes of it. -/
theorem write_on (on : connection.On db)
    (statement : Database → Except Refusal (Database × α)) :
    connection.write statement =
      (statement db).map fun result => (connection.wrote result.1, result.2) := by
  obtain ⟨storage, denial, changed, saved⟩ := connection
  obtain ⟨stored, writable⟩ := on
  cases stored
  cases writable
  simp only [write]
  cases statement db <;> rfl

/-- An object is created in the database that a connection is to, or refused there. -/
theorem create_on (on : connection.On db) (object : Object) :
    (∃ after, db.ensure object = .ok after ∧
        ∃ next, connection.create object = .ok next ∧ next.On after) ∨
      ∃ refusal, db.ensure object = .error refusal ∧
        connection.create object = .error refusal := by
  have looked : connection.read (fun db => .ok (db.hasObject object)) =
      .ok (db.hasObject object) := by
    unfold read
    rw [on.storage]
  unfold create Database.ensure
  rw [looked, write_on on]
  cases db.hasObject object with
  | true => exact .inl ⟨db, rfl, connection, rfl, on⟩
  | false =>
      cases created : db.create object with
      | ok after =>
          exact .inl ⟨after, by simp, connection.wrote after, by simp [Except.map],
            rfl, on.writable⟩
      | error refusal => exact .inr ⟨refusal, by simp, by simp [Except.map]⟩

/-- Creating an object does not change what a rollback goes back to. -/
theorem create_saved {object : Object} (created : connection.create object = .ok next) :
    next.saved = connection.saved := by
  unfold create at created
  split at created
  · cases created
  · cases created
    rfl
  · rename_i missing
    cases written : connection.write fun db => (db.create object).map fun db => (db, ()) with
    | error refusal =>
        rw [written] at created
        cases created
    | ok result =>
        rw [written] at created
        cases created
        obtain ⟨db, after, -, -, left⟩ := write_ok written
        rw [left]
        rfl

/-- The engine can take back what was done in a transaction. -/
theorem transactional : server.Transactional Connection.storage Connection.saved where
  lookup _ _ := rfl
  opened _ _ := rfl
  unopened _ _ _ := rfl
  uncommitted := by
    intro connection error answered
    cases answered
  executed := by
    intro step connection
    simp only [server, perform]
    split
    · rename_i next created
      exact create_saved created
    · rfl
  rolledBack := by
    intro connection before saved
    simp only [server, saved, Option.getD_some]

end MemoStore.Store.Connection
