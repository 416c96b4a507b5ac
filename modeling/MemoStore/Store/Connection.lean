import MemoStore.Schema.Bootstrap
import MemoStore.Store.Define
import MemoStore.Store.Read
import MemoStore.Store.Update

/-!
# Connections

A connection to a database file or to a database in memory. A file that cannot be read
as a database is noticed by the first statement, and a connection that may change
nothing refuses what would, after the checks that come before a statement runs. A write
that is refused leaves the connection as it was.
-/

namespace MemoStore.Store

open MemoStore.Record (Entity Fields Route)
open MemoStore.Schema (Object Server Step)
open MemoStore.Sql (Statement)
open MemoStore.Time (Instant)

/-- What a database file holds. -/
inductive Storage where
  | database (db : Database)
  /-- something that turns every statement down -/
  | unusable (reason : Refusal)
  deriving Repr

/-- A connection. -/
structure Connection where
  storage : Storage := .database .empty
  /-- what turns every change down, if something does -/
  denial : Option Refusal := none
  /-- whether something was changed -/
  changed : Bool := false
  /-- The storage as it was when the open transaction began. -/
  saved : Option Storage := none
  deriving Repr

namespace Connection

/-- A connection to a database. -/
def toDatabase (db : Database) : Connection where
  storage := .database db

/-- Reads something. -/
def read {α : Type} (connection : Connection) (query : Database → Except Refusal α) :
    Except Refusal α :=
  match connection.storage with
  | .database db => query db
  | .unusable reason => .error reason

/-- Runs a statement that changes something. -/
def write {α : Type} (connection : Connection)
    (statement : Database → Except Refusal (Database × α)) :
    Except Refusal (Connection × α) :=
  match connection.storage with
  | .unusable reason => .error reason
  | .database db =>
    match statement db with
    | .error refusal =>
      .error ((connection.denial.filter refusal.yieldsTo).getD refusal)
    | .ok (db, result) =>
      match connection.denial with
      | some denial => .error denial
      | none => .ok ({ connection with storage := .database db, changed := true }, result)

/-- Creates an object of the changelog. To leave an existing object as it is changes
nothing and so is never refused. -/
def create (connection : Connection) (object : Object) : Except Refusal Connection :=
  match connection.read fun db => .ok (db.hasObject object) with
  | .error refusal => .error refusal
  | .ok true => .ok connection
  | .ok false =>
    (connection.write fun db => (db.create object).map fun db => (db, ())).map Prod.fst

/-- Runs a statement that takes something away. One that finds nothing to drop, and need
not, is never refused. -/
def execute (connection : Connection) (statement : Statement) : Except Refusal Connection :=
  let change :=
    (connection.write fun db => (db.perform statement).map fun db => (db, ())).map Prod.fst
  match statement, connection.storage with
  | .drop kind true object, .database db =>
    if db.lacks kind object then .ok connection else change
  | _, _ => change

/-- Runs the statements of a text, at most `limit` and one, up to the first that is
refused. What was done before stays. -/
def runText (limit : Nat) (connection : Connection) (text : List Char) :
    Except Refusal Unit × Connection :=
  match Statement.read text.length text with
  | .error complaint => (.error (.malformed complaint), connection)
  | .ok none => (.ok (), connection)
  | .ok (some (statement, rest)) =>
    match connection.execute statement with
    | .error refusal => (.error refusal, connection)
    | .ok connection =>
      match limit with
      | 0 => (.ok (), connection)
      | limit + 1 => connection.runText limit rest

/-- Lets a statement take effect, or leaves everything as it is. -/
def perform (connection : Connection) (outcome : Except Refusal Connection) :
    Except EngineError Unit × Connection :=
  match outcome with
  | .ok connection => (.ok (), connection)
  | .error refusal => (.error refusal.onExecution, connection)

/-- The SQLite server behind a connection. -/
def server : Server Connection where
  lookup object connection :=
    ((connection.read fun db => .ok (db.hasObject object)).mapError Refusal.onQuery, connection)
  execute step connection := connection.perform (connection.create step.creates)
  openTransaction connection := (.ok (), { connection with saved := some connection.storage })
  commit connection := (.ok (), { connection with saved := none })
  rollback connection :=
    { connection with storage := connection.saved.getD connection.storage, saved := none }

end Connection

end MemoStore.Store
