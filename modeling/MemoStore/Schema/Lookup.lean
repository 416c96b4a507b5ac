import MemoStore.Schema.Object

/-!
# Lookup queries

The query that a backend answers when it is asked for an object by name. The name is
the only value bound to it.
-/

namespace MemoStore.Schema

/-- The query that finds an object. A foreign key of SQLite is part of its table. -/
def lookupSql (backend : Backend) (object : Object) : String :=
  match backend, object with
  | .mysql, .table _ =>
    "SELECT table_name FROM information_schema.tables " ++
      "WHERE table_schema = DATABASE() AND table_name = ? LIMIT 1"
  | .mysql, .foreignKey _ =>
    "SELECT constraint_name FROM information_schema.table_constraints " ++
      "WHERE constraint_schema = DATABASE() AND constraint_type = 'FOREIGN KEY' " ++
      "AND constraint_name = ? LIMIT 1"
  | .mysql, .trigger _ =>
    "SELECT trigger_name FROM information_schema.triggers " ++
      "WHERE trigger_schema = DATABASE() AND trigger_name = ? LIMIT 1"
  | .mysql, .tagNameIndex =>
    "SELECT index_name FROM information_schema.statistics " ++
      "WHERE table_schema = DATABASE() AND table_name = 'tag' AND index_name = ? LIMIT 1"
  | _, .trigger _ => "SELECT name FROM sqlite_master WHERE type = 'trigger' AND name = ? LIMIT 1"
  | _, .tagNameIndex =>
    "SELECT name FROM sqlite_master WHERE type = 'index' AND name = ? LIMIT 1"
  | _, _ => "SELECT name FROM sqlite_master WHERE type = 'table' AND name = ? LIMIT 1"

end MemoStore.Schema
