import MemoStore.Record.Fields
import MemoStore.Record.Link
import MemoStore.Schema.Variant

/-!
# Query text

The statements that read, delete, insert and declare records, in the spelling of
each backend. Every column is qualified with its table, and values are bound to
placeholders, never written into the text.
-/

namespace MemoStore.Record

open MemoStore.Schema (Backend)

/-- A statement with the values bound to its placeholders. -/
structure Query where
  sql : String
  values : List Value
  deriving DecidableEq, Repr

namespace Query

/-- Texts with a comma and a space between them. -/
def commaList (texts : List String) : String :=
  String.intercalate ", " texts

/-- A quoted name. Names never hold a quotation mark. -/
def quoted (backend : Backend) (name : String) : String :=
  match backend with
  | .mysql => "`" ++ name ++ "`"
  | _ => "\"" ++ name ++ "\""

/-- A column with its table. -/
def qualified (backend : Backend) (entity : Entity) (column : String) : String :=
  quoted backend entity.table ++ "." ++ quoted backend column

/-- The placeholder of the value with a given number, counted from 1. -/
def placeholder (backend : Backend) (number : Nat) : String :=
  match backend with
  | .postgres => "$" ++ toString number
  | _ => "?"

/-- The condition that picks one record by its key. -/
def whereKey (backend : Backend) (entity : Entity) : String :=
  " WHERE " ++ qualified backend entity Entity.key.name ++ " = " ++ placeholder backend 1

/-- Adds the condition on the key when a key is given. -/
def atKey (backend : Backend) (entity : Entity) (key : Option Int) (sql : String) : Query :=
  match key with
  | some id => ⟨sql ++ whereKey backend entity, [.int id]⟩
  | none => ⟨sql, []⟩

/-- The text that reads all columns of an entity. -/
def selectSql (backend : Backend) (entity : Entity) : String :=
  "SELECT " ++ commaList (entity.columns.map fun column => qualified backend entity column.name) ++
    " FROM " ++ quoted backend entity.table

/-- Reads all records, or the one with the given key. -/
def select (backend : Backend) (entity : Entity) (key : Option Int) : Query :=
  atKey backend entity key (selectSql backend entity)

/-- Deletes the record with a key. -/
def delete (backend : Backend) (entity : Entity) (key : Int) : Query :=
  atKey backend entity (some key) ("DELETE FROM " ++ quoted backend entity.table)

/-- What follows the table when no column is set. -/
def emptyRow : Backend → String
  | .sqlite => " DEFAULT VALUES"
  | .mysql => " VALUES ()"
  | .postgres => " VALUES (DEFAULT)"

/-- Inserts a record with the set columns. -/
def insert (backend : Backend) (fields : Fields) : Query :=
  let assignments := fields.assignments
  let head := "INSERT INTO " ++ quoted backend fields.entity.table
  if assignments.isEmpty then ⟨head ++ emptyRow backend, []⟩
  else
    let names := assignments.map fun (name, _) => quoted backend name
    let places := (List.range assignments.length).map fun i => placeholder backend (i + 1)
    ⟨head ++ " (" ++ commaList names ++ ") VALUES (" ++ commaList places ++ ")",
      assignments.map Prod.snd⟩

/-- The join of an entity on a link whose target is read already. -/
def joinSource (backend : Backend) (link : Link) : String :=
  " INNER JOIN " ++ quoted backend link.source.table ++ " ON " ++
    qualified backend link.source link.sourceColumn ++ " = " ++
    qualified backend link.target link.targetColumn

/-- Reads the records of the target of a route that are linked to the source, or to
the one record of the source with the given key. -/
def related (backend : Backend) (source target : Entity) (route : Route) (key : Option Int) :
    Query :=
  let joins := joinSource backend route.last ++ (route.via.map (joinSource backend)).getD ""
  atKey backend source key (selectSql backend target ++ joins)

/-- The type of a column in a table declaration. -/
def typeSql : Backend → ColumnType → String
  | .sqlite, .integer => "integer"
  | .mysql, .integer => "int"
  | .postgres, .integer => "integer"
  | .sqlite, .varchar limit => "text(" ++ toString limit ++ ")"
  | _, .varchar limit => "varchar(" ++ toString limit ++ ")"
  | _, .text => "text"
  | .sqlite, .timestamp => "text"
  | _, .timestamp => "timestamp"
  | .sqlite, .boolean => "boolean"
  | _, .boolean => "bool"

/-- The declaration of the key column. -/
def keySql (backend : Backend) : String :=
  quoted backend Entity.key.name ++
    match backend with
    | .sqlite => " integer NOT NULL PRIMARY KEY AUTOINCREMENT"
    | .mysql => " int NOT NULL AUTO_INCREMENT PRIMARY KEY"
    | .postgres => " serial NOT NULL PRIMARY KEY"

/-- The declaration of a column. -/
def columnSql (backend : Backend) (column : Column) : String :=
  if column.name = Entity.key.name then keySql backend
  else
    quoted backend column.name ++ " " ++ typeSql backend column.type ++
      (if column.nullable then "" else " NOT NULL") ++
      (if column.unique then " UNIQUE" else "")

/-- The declaration of the foreign key of a link, which SQLite leaves unnamed. -/
def foreignKeySql (backend : Backend) (link : Link) : String :=
  (if backend = .sqlite then ""
    else
      "CONSTRAINT " ++
        quoted backend ("fk-" ++ link.source.table ++ "-" ++ link.sourceColumn) ++ " ") ++
    "FOREIGN KEY (" ++ quoted backend link.sourceColumn ++ ") REFERENCES " ++
    quoted backend link.target.table ++ " (" ++ quoted backend link.targetColumn ++
    ") ON DELETE CASCADE ON UPDATE NO ACTION"

/-- Declares the table of an entity. -/
def createTable (backend : Backend) (entity : Entity) : Query :=
  let keys := (entity.links.map Prod.snd).filter fun link => !link.isOwner
  ⟨"CREATE TABLE " ++ quoted backend entity.table ++ " ( " ++
      commaList (entity.columns.map (columnSql backend) ++ keys.map (foreignKeySql backend)) ++
      " )",
    []⟩

end Query

end MemoStore.Record
