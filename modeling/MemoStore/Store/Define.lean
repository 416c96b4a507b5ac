import MemoStore.Sql.Statement
import MemoStore.Store.Delete
import MemoStore.Store.Insert

/-!
# Creating and dropping objects

Creating an object that exists changes nothing. A trigger or an index needs its table,
and the index on tag names needs the names to be unique already. Dropping a table
deletes its rows first, with everything that refers to them. The tables that the engine
keeps for itself cannot be dropped, and neither can an index that carries a constraint.
-/

namespace MemoStore.Store

open MemoStore.Record (Entity)
open MemoStore.Schema (Object)
open MemoStore.Sql (ObjectKind ObjectName Statement isNamed)

/-- Whether two tags of a list have the same name in the same scope. -/
def repeatsName : List Tag → Bool
  | [] => false
  | tag :: rest => rest.any (sameName tag) || repeatsName rest

/-- What a database has under the name of a table. -/
inductive NamedTable where
  | stored (entity : Entity)
  /-- the list of all objects, of the database or of what is temporary -/
  | catalog (temporary : Bool)
  /-- the last keys of the tables -/
  | lastKeys
  deriving DecidableEq, Repr

/-- The name that the engine gives to a table. -/
def NamedTable.name : NamedTable → String
  | .stored entity => entity.table
  | .catalog false => "sqlite_master"
  | .catalog true => "sqlite_temp_master"
  | .lastKeys => "sqlite_sequence"

/-- The names of the list of all objects. -/
def catalogNames : List String := ["sqlite_master", "sqlite_schema"]

/-- The names of the list of all temporary objects. -/
def temporaryCatalogNames : List String := ["sqlite_temp_master", "sqlite_temp_schema"]

/-- The name of the index that carries the constraint on user codes. -/
def userCodeIndex : String := "sqlite_autoindex_user_1"

namespace Database

/-- Creates the table of an entity unless it exists. The engine keeps its last key from
then on. -/
def createTable (db : Database) (entity : Entity) : Database :=
  let db := { db with keepsKeys := true }
  match entity with
  | .user => { db with users := some (db.users.getD {}) }
  | .memo => { db with memos := some (db.memos.getD {}) }
  | .tag => { db with tags := some (db.tags.getD {}) }
  | .attachment => { db with attachments := some (db.attachments.getD {}) }

/-- Creates an object of the changelog. Objects that only other backends have are
none of this one. -/
def create (db : Database) : Object → Except Refusal Database
  | .table entity => .ok (db.createTable entity)
  | .foreignKey _ => .ok db
  | .trigger .touchMemo =>
    match db.memos with
    | none => .error (.noReferencedTable .memo)
    | some memos => .ok { db with memos := some { memos with touches := true } }
  | .trigger _ => .ok db
  | .tagNameIndex =>
    match db.tags with
    | none => .error (.noReferencedTable .tag)
    | some tags =>
      if !tags.uniqueNames && repeatsName tags.rows then .error nameTaken
      else .ok { db with tags := some { tags with uniqueNames := true } }

/-- Takes a table away, with its rows. -/
def forget (db : Database) : Entity → Database
  | .user => { db with users := none }
  | .memo => { db with memos := none }
  | .tag => { db with tags := none }
  | .attachment => { db with attachments := none }

/-- Drops the table of an entity after deleting its rows. -/
def dropTable (db : Database) (entity : Entity) : Except Refusal Database := do
  db.requireTable entity
  db.requireCascade entity
  return (db.removeRows entity fun _ => true).forget entity

/-- The table with a name. -/
def findTable? (db : Database) (object : ObjectName) : Option NamedTable :=
  if object.isMain then
    match Entity.all.find? fun entity => db.has entity && isNamed [entity.table] object.name with
    | some entity => some (.stored entity)
    | none =>
      if isNamed catalogNames object.name then some (.catalog false)
      else if db.keepsKeys && isNamed ["sqlite_sequence"] object.name then some .lastKeys
      else if object.database.isNone && isNamed temporaryCatalogNames object.name then
        some (.catalog true)
      else none
  else if object.database.any (isNamed ["temp"]) &&
      isNamed (catalogNames ++ temporaryCatalogNames) object.name then some (.catalog true)
  else none

/-- Whether the trigger on memos has a name. -/
def isTrigger (db : Database) (object : ObjectName) : Bool :=
  object.isMain && db.touchesMemos && isNamed [Schema.Trigger.touchMemo.name] object.name

/-- Whether the index on tag names has a name. -/
def isTagNameIndex (db : Database) (object : ObjectName) : Bool :=
  object.isMain && db.uniqueTagNames && isNamed [Schema.tagNameIndex] object.name

/-- Whether the index of the constraint on user codes has a name. -/
def isUserCodeIndex (db : Database) (object : ObjectName) : Bool :=
  object.isMain && db.has .user && isNamed [userCodeIndex] object.name

/-- Whether there is no object of a kind with a name. -/
def lacks (db : Database) (kind : ObjectKind) (object : ObjectName) : Bool :=
  match kind with
  | .table | .view => (db.findTable? object).isNone
  | .trigger => !db.isTrigger object
  | .index => !(db.isTagNameIndex object || db.isUserCodeIndex object)

/-- The refusal to drop an object that is missing. -/
def missing (kind : ObjectKind) (object : ObjectName) : Refusal :=
  match kind with
  | .table => .noTable object.text
  | .view => .noView object.text
  | .trigger => .noTrigger object.text
  | .index => .noIndex object.text

/-- Drops an object by kind and name. -/
def drop (db : Database) (kind : ObjectKind) (object : ObjectName) : Except Refusal Database :=
  match kind with
  | .table =>
    match db.findTable? object with
    | some (.stored entity) => db.dropTable entity
    | some table => .error (.protectedTable table.name)
    | none => .error (missing .table object)
  | .view =>
    match db.findTable? object with
    | some (.stored entity) => .error (.notAView entity)
    | some table => .error (.protectedTable table.name)
    | none => .error (missing .view object)
  | .trigger =>
    if db.isTrigger object then
      .ok { db with memos := db.memos.map fun memos => { memos with touches := false } }
    else .error (missing .trigger object)
  | .index =>
    if db.isTagNameIndex object then
      .ok { db with tags := db.tags.map fun tags => { tags with uniqueNames := false } }
    else if db.isUserCodeIndex object then .error .constraintIndex
    else .error (missing .index object)

/-- Forgets the last keys of all tables, so that keys go on from the stored rows. -/
def forgetKeys (db : Database) : Database :=
  { db with
    users := db.users.map Table.forgetKey
    memos := db.memos.map fun memos => { memos with toTable := memos.forgetKey }
    tags := db.tags.map fun tags => { tags with toTable := tags.forgetKey }
    attachments := db.attachments.map Table.forgetKey }

/-- Deletes all rows of a table by its name. -/
def deleteAll (db : Database) (object : ObjectName) : Except Refusal Database :=
  match db.findTable? object with
  | some (.stored entity) => (db.delete entity fun _ => true).map Prod.fst
  | some .lastKeys => .ok db.forgetKeys
  | some table => .error (.unmodifiableTable table.name)
  | none => .error (missing .table object)

/-- Lets a statement take effect. -/
def perform (db : Database) : Statement → Except Refusal Database
  | .drop kind lenient object =>
    if lenient && db.lacks kind object then .ok db else db.drop kind object
  | .deleteAll object => db.deleteAll object

/-- The kind of an object as the engine lists it. -/
def kindName : Object → String
  | .table _ => "table"
  | .foreignKey _ => "foreign key"
  | .trigger _ => "trigger"
  | .tagNameIndex => "index"

/-- The objects of a database with their kinds, in the order of their names. -/
def objects (db : Database) : List (String × String) :=
  ((Schema.createdObjects .sqlite).filter db.hasObject).map
      (fun object => (kindName object, object.name))
    |>.mergeSort fun a b => a.2 ≤ b.2

end Database

end MemoStore.Store
