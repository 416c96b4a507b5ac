import MemoStore.Record.Query
import MemoStore.Store.Connection

/-!
# Working with records

What a client does with records over a connection. Every result is a row as it is
stored afterwards, and every error has passed through the recognition of violations.

A client holds keys as signed numbers of 32 bits, and the engine counts on beyond them. A
row that got a larger key is stored, but not handed out.
-/

namespace MemoStore.Store

open MemoStore.Record (Entity Fields)
open MemoStore.Sql (ObjectKind)
open MemoStore.Time (Instant)

namespace Connection

/-- The failure of a statement that was to change something. -/
def writeFailure (refusal : Refusal) : Failure :=
  .ofEngine refusal.onExecution

/-- The failure of a statement that was to read something. -/
def readFailure (refusal : Refusal) : Failure :=
  .ofEngine refusal.onQuery

/-- The failure of an update whose row is not stored. -/
def notUpdated : Failure :=
  .ofEngine .recordNotUpdated

/-- The failure of an update that cannot read its row back. -/
def notFound : Failure :=
  .ofEngine (.recordNotFound "Failed to find updated item")

/-- The largest key that a client can hold. -/
def maxKey : Int :=
  2147483647

/-- The failure of an insertion whose row got a key that the client cannot hold. -/
def keyTooLarge : Failure :=
  .ofEngine .unpackInsertId

/-- Stores a new row. -/
def store (connection : Connection) (now : Instant) (fields : Fields) :
    Except Failure (Connection × Row) :=
  (connection.write fun db => db.insert now fields).mapError writeFailure

/-- Hands a new row to the client, who is told its key unless it was brought along. -/
def handOut (fields : Fields) (row : Row) : Except Failure Row :=
  if fields.id? = none ∧ maxKey < row.key then .error keyTooLarge else .ok row

/-- Inserts a row and gives it as it is stored. -/
def insert (connection : Connection) (now : Instant) (fields : Fields) :
    Except Failure (Connection × Row) := do
  let (connection, row) ← connection.store now fields
  let row ← handOut fields row
  return (connection, row)

/-- Reads the row with a key. -/
def get (connection : Connection) (entity : Entity) (id : Int) : Except Failure (Option Row) :=
  (connection.read fun db => db.get entity id).mapError readFailure

/-- Reads a row back after an update. -/
def readBack (connection : Connection) (entity : Entity) (id : Int) :
    Except Failure (Connection × Row) :=
  match connection.get entity id with
  | .ok (some row) => .ok (connection, row)
  | .ok none => .error notFound
  | .error failure => .error failure

/-- Sets columns of the row with a key, without reading it first, and gives it as it is
stored afterwards. Nothing is written if no column is set. A key among the columns does
not count. -/
def save (connection : Connection) (now : Instant) (id : Int) (fields : Fields) :
    Except Failure (Connection × Row) :=
  if fields.changes.isEmpty then connection.readBack fields.entity id
  else
    match connection.write fun db => db.update now id fields with
    | .error refusal => .error (writeFailure refusal)
    | .ok (_, 0) => .error notUpdated
    | .ok (connection, _ + 1) => connection.readBack fields.entity id

/-- Reads the row with a key and sets columns of it. There is no result if the row is
not stored. A key among the columns says which row they are set in. -/
def update (connection : Connection) (now : Instant) (id : Int) (fields : Fields) :
    Except Failure (Connection × Option Row) := do
  match ← connection.get fields.entity id with
  | none => return (connection, none)
  | some _ =>
    let (connection, row) ← connection.save now (fields.id?.getD id) fields
    return (connection, some row)

/-- Deletes the row with a key and gives the number of deleted rows of its table. -/
def delete (connection : Connection) (entity : Entity) (id : Int) :
    Except Failure (Connection × Nat) :=
  (connection.write fun db => db.delete entity fun key => key == id).mapError writeFailure

/-- Deletes all rows of a table and gives their number. -/
def deleteAll (connection : Connection) (entity : Entity) : Except Failure (Connection × Nat) :=
  (connection.write fun db => db.delete entity fun _ => true).mapError writeFailure

/-- Reads all rows of a table. -/
def list (connection : Connection) (entity : Entity) : Except Failure (List Row) :=
  (connection.read fun db => db.list entity).mapError readFailure

/-- Counts the rows of a table. -/
def count (connection : Connection) (entity : Entity) : Except Failure Nat :=
  (connection.read fun db => db.count entity).mapError readFailure

/-- Reads the rows of `target` that are related to the row of `source` with a key.
There is no result if that row is not stored. -/
def related (connection : Connection) (source target : Entity) (route : Record.Route)
    (id : Int) : Except Failure (Option (List Row)) := do
  match ← connection.get source id with
  | none => return none
  | some _ =>
    let rows ← (connection.read fun db => db.related source target route id).mapError readFailure
    return some rows

/-- Drops an object whose name is put between quotes as it is. A name with a quote in it
can make this another statement, or several. -/
def drop (connection : Connection) (kind : ObjectKind) (name : String) :
    Except Failure Unit × Connection :=
  let text := (Sql.dropText kind name).toList
  let (result, connection) := connection.runText text.length text
  (result.mapError writeFailure, connection)

/-- Runs one statement of the changelog by itself. -/
def apply (connection : Connection) (step : Schema.Step) : Except Failure Connection :=
  (connection.create step.creates).mapError writeFailure

end Connection

end MemoStore.Store
