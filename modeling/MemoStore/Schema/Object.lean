import MemoStore.Record.Entity
import MemoStore.Schema.Variant

/-!
# Schema objects

Everything the changelog creates, by name, and the objects whose presence makes a
schema complete. The index on tag names is created but not required, because only
one of the two variants has it.
-/

namespace MemoStore.Schema

open MemoStore.Record (Entity)

/-- The foreign keys that are objects with a name. -/
inductive NamedKey where
  | memoOwner
  | tagOwner
  | attachedMemo
  | attachedTag
  deriving DecidableEq, Repr

/-- The name of a foreign key. -/
def NamedKey.name : NamedKey → String
  | .memoOwner => "memo_user_id_user_id_fk"
  | .tagOwner => "tag_user_id_user_id_fk"
  | .attachedMemo => "memo_tag_relation_memo_id_memo_id_fk"
  | .attachedTag => "memo_tag_relation_tag_id_tag_id_fk"

/-- The triggers of the two changelogs. -/
inductive Trigger where
  /-- refreshes the time of the last change of a memo -/
  | touchMemo
  /-- keeps the owner rule when a tag is inserted -/
  | tagOwnerInsert
  /-- keeps the owner rule when a tag is updated -/
  | tagOwnerUpdate
  deriving DecidableEq, Repr

/-- The name of a trigger. -/
def Trigger.name : Trigger → String
  | .touchMemo => "memo_touch_updated_at"
  | .tagOwnerInsert => "check_tag_owner_insert"
  | .tagOwnerUpdate => "check_tag_owner_update"

/-- The name of the unique constraint on user codes. -/
def userCodeConstraint : String := "uniq_code"

/-- The name of the unique index on tag names. -/
def tagNameIndex : String := "uniq_tag_name"

/-- The name of the rule that a tag is official or has an owner. -/
def tagOwnerCheck : String := "check_tag_owner"

/-- An object a changelog creates. -/
inductive Object where
  | table (entity : Entity)
  | foreignKey (key : NamedKey)
  | trigger (which : Trigger)
  | tagNameIndex
  deriving DecidableEq, Repr

/-- The name of an object. -/
def Object.name : Object → String
  | .table entity => entity.table
  | .foreignKey key => key.name
  | .trigger which => which.name
  | .tagNameIndex => Schema.tagNameIndex

/-- The tables, in creation order. -/
def tableObjects : List Object :=
  [.table .user, .table .memo, .table .tag, .table .attachment]

/-- The objects of the script of a backend, in creation order. -/
def scriptObjects : Backend → List Object
  | .mysql =>
    tableObjects ++
      [.foreignKey .memoOwner, .foreignKey .tagOwner, .foreignKey .attachedMemo,
        .foreignKey .attachedTag, .trigger .tagOwnerInsert, .trigger .tagOwnerUpdate]
  | .sqlite => tableObjects ++ [.trigger .touchMemo]
  | .postgres => []

/-- What the statements of a backend create, in order, the index included. -/
def createdObjects (backend : Backend) : List Object :=
  scriptObjects backend ++ [.tagNameIndex]

end MemoStore.Schema
