import MemoStore.Store.Refusal
import MemoStore.Store.Table

/-!
# The database

The four tables, each of which may be missing. The trigger on memos belongs to their
table and the index on tag names to that of the tags, so neither outlives its table.
-/

namespace MemoStore.Store

open MemoStore.Record (Entity)
open MemoStore.Schema (Object)

/-- The table of memos, with or without the trigger that refreshes the time of the
last change. -/
structure MemoTable extends Table Memo where
  touches : Bool := false
  deriving Repr

/-- The table of tags, with or without the index that makes their names unique. -/
structure TagTable extends Table Tag where
  uniqueNames : Bool := false
  deriving Repr

/-- A database. -/
structure Database where
  users : Option (Table User) := none
  memos : Option MemoTable := none
  tags : Option TagTable := none
  attachments : Option (Table Attachment) := none
  /-- whether the engine keeps the last keys of tables, as it does from the first table on -/
  keepsKeys : Bool := false
  deriving Repr

namespace Database

/-- A database without tables. -/
def empty : Database := {}

/-- Whether the table of an entity exists. -/
def has (db : Database) : Entity → Bool
  | .user => db.users.isSome
  | .memo => db.memos.isSome
  | .tag => db.tags.isSome
  | .attachment => db.attachments.isSome

/-- Whether the trigger on memos exists. -/
def touchesMemos (db : Database) : Bool :=
  db.memos.any (·.touches)

/-- Whether the index on tag names exists. -/
def uniqueTagNames (db : Database) : Bool :=
  db.tags.any (·.uniqueNames)

/-- Whether an object exists. Foreign keys are parts of their tables. -/
def hasObject (db : Database) : Object → Bool
  | .table entity => db.has entity
  | .foreignKey _ => false
  | .trigger .touchMemo => db.touchesMemos
  | .trigger _ => false
  | .tagNameIndex => db.uniqueTagNames

/-- The rows of a table, if it exists. -/
def rows? (db : Database) : Entity → Option (List Row)
  | .user => db.users.map fun table => table.rows.map .user
  | .memo => db.memos.map fun table => table.rows.map .memo
  | .tag => db.tags.map fun table => table.rows.map .tag
  | .attachment => db.attachments.map fun table => table.rows.map .attachment

/-- The tables that a table refers to, in the order in which they are looked for. -/
def referenced : Entity → List Entity
  | .user => []
  | .memo => [.user]
  | .tag => [.user]
  | .attachment => [.tag, .memo]

/-- Refuses a statement on a table that is missing. -/
def requireTable (db : Database) (entity : Entity) : Except Refusal Unit :=
  if db.has entity then .ok () else .error (.noTable entity.table)

/-- Refuses a statement that needs referenced tables of which one is missing. -/
def requireReferenced (db : Database) (entities : List Entity) : Except Refusal Unit :=
  match entities.find? fun entity => !db.has entity with
  | some entity => .error (.noReferencedTable entity)
  | none => .ok ()

end Database

end MemoStore.Store
