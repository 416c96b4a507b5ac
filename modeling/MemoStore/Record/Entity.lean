/-!
# Entities

The four kinds of stored records, with the columns of each in declaration order.
-/

namespace MemoStore.Record

/-- A kind of stored record. -/
inductive Entity where
  | user
  | memo
  | tag
  /-- the attachment of a tag to a memo -/
  | attachment
  deriving DecidableEq, Repr

/-- The type of a column. -/
inductive ColumnType where
  | integer
  | varchar (limit : Nat)
  | text
  | timestamp
  | boolean
  deriving DecidableEq, Repr

/-- The description of a column type. -/
def ColumnType.label : ColumnType → String
  | .integer => "Integer"
  | .varchar limit => "String(Some(" ++ toString limit ++ "))"
  | .text => "Text"
  | .timestamp => "Timestamp"
  | .boolean => "Boolean"

/-- A column of an entity. -/
structure Column where
  name : String
  type : ColumnType
  nullable : Bool := false
  unique : Bool := false
  deriving DecidableEq, Repr

namespace Entity

/-- All entities, in creation order. -/
def all : List Entity := [.user, .memo, .tag, .attachment]

/-- The table that holds the records of an entity. -/
def table : Entity → String
  | .user => "user"
  | .memo => "memo"
  | .tag => "tag"
  | .attachment => "memo_tag_relation"

/-- The entity with a given table. -/
def ofTable? (name : String) : Option Entity :=
  all.find? fun entity => entity.table == name

/-- The primary key, the same column everywhere. -/
def key : Column := ⟨"id", .integer, false, false⟩

/-- The columns of an entity, in declaration order. -/
def columns : Entity → List Column
  | .user =>
    [key, { name := "name", type := .varchar 256 },
      { name := "code", type := .varchar 256, unique := true }]
  | .memo =>
    [key, { name := "created_at", type := .timestamp },
      { name := "updated_at", type := .timestamp }, { name := "user_id", type := .integer },
      { name := "title", type := .varchar 256 }, { name := "content", type := .text }]
  | .tag =>
    [key, { name := "name", type := .varchar 50 }, { name := "is_official", type := .boolean },
      { name := "user_id", type := .integer, nullable := true }]
  | .attachment =>
    [key, { name := "memo_id", type := .integer }, { name := "tag_id", type := .integer }]

end Entity

end MemoStore.Record
