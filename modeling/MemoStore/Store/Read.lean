import MemoStore.Store.Database

/-!
# Reading rows

Rows are read in the order of their keys. The rows related to a record are those that
the links of a route join to it, once for every way they are joined.
-/

namespace MemoStore.Store

open MemoStore.Record (Entity Route)

namespace Database

/-- The rows of a table in the order of their keys. -/
def list (db : Database) (entity : Entity) : Except Refusal (List Row) :=
  match db.rows? entity with
  | some rows => .ok (rows.mergeSort fun a b => a.key ≤ b.key)
  | none => .error (.noTable entity.table)

/-- The row with a key. -/
def get (db : Database) (entity : Entity) (id : Int) : Except Refusal (Option Row) :=
  (db.list entity).map fun rows => rows.find? fun row => row.key == id

/-- The number of rows of a table. -/
def count (db : Database) (entity : Entity) : Except Refusal Nat :=
  (db.list entity).map List.length

/-- The rows that a route joins to the row of `source` with a key. The tables are
looked for in the order of the query: the target, the one between, the source. -/
def related (db : Database) (source target : Entity) (route : Route) (id : Int) :
    Except Refusal (List Row) := do
  let targets ← db.list target
  match route.via with
  | none =>
    let sources := (← db.list source).filter fun row => row.key == id
    return targets.flatMap fun row =>
      (sources.filter fun origin => joins route.last origin row).map fun _ => row
  | some via =>
    let middles ← db.list via.target
    let sources := (← db.list source).filter fun row => row.key == id
    return targets.flatMap fun row =>
      (middles.filter fun middle => joins route.last middle row).flatMap fun middle =>
        (sources.filter fun origin => joins via origin middle).map fun _ => row

end Database

end MemoStore.Store
