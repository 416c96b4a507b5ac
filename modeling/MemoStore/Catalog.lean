import MemoStore.Schema.Object
import MemoStore.Schema.Variant

/-!
# The table catalog

A description of every table of the schema: its fields, its constraints and its
indexes. The documentation export renders it, and the recognition of engine messages
looks in it for the constraint that a list of columns belongs to.
-/

namespace MemoStore.Catalog

open MemoStore.Record (Entity)
open MemoStore.Schema (Variant)

/-- The title of a table with remarks on it. -/
structure Notes where
  title : String
  context : List String := []
  deriving DecidableEq, Repr

/-- The column that a field refers to, and what a deletion there does. -/
structure Reference where
  table : String
  column : String
  onDelete : String
  deriving DecidableEq, Repr

/-- A field of a table. -/
structure Field where
  name : String
  columnType : String
  verboseName : Option String := none
  isNull : Bool := false
  isUnique : Bool := false
  primaryKey : Bool := false
  autoIncrement : Bool := false
  default : Option String := none
  onUpdate : Option String := none
  reference : Option Reference := none
  deriving DecidableEq, Repr

/-- What a constraint demands. -/
inductive ConstraintKind where
  | unique
  | check
  deriving DecidableEq, Repr

/-- The name of a constraint kind in documents. -/
def ConstraintKind.label : ConstraintKind → String
  | .unique => "UniqueConstraint"
  | .check => "CheckConstraint"

/-- A constraint on fields of a table. -/
structure Constraint where
  kind : ConstraintKind
  fields : List String
  name : String
  condition : Option String := none
  deriving DecidableEq, Repr

/-- An index of a table. -/
structure Index where
  name : String
  fields : List String
  deriving DecidableEq, Repr

/-- A table. -/
structure Table where
  name : String
  notes : Notes
  fields : List Field
  constraints : List Constraint
  indexes : List Index
  deriving DecidableEq, Repr

/-- The key that every table has. -/
def keyField : Field where
  name := "id"
  columnType := "int"
  isUnique := true
  primaryKey := true
  autoIncrement := true

/-- A reference to the key of a table whose deletions cascade. -/
def cascadesFrom (entity : Entity) : Reference where
  table := entity.table
  column := "id"
  onDelete := "CASCADE"

/-- The table of users. -/
def userTable : Table where
  name := Entity.user.table
  notes := ⟨"User", ["Deleting a user deletes their memos and personal tags"]⟩
  fields :=
    [keyField,
      { name := "name", columnType := "varchar(256)", verboseName := some "user name" },
      { name := "code", columnType := "varchar(256)", verboseName := some "user code",
        isUnique := true }]
  constraints := [{ kind := .unique, fields := ["code"], name := Schema.userCodeConstraint }]
  indexes := []

/-- The table of memos. -/
def memoTable : Table where
  name := Entity.memo.table
  notes :=
    ⟨"Memo",
      ["Every memo belongs to exactly one existing user",
        "updated_at is refreshed by the database on every change"]⟩
  fields :=
    [keyField,
      { name := "created_at", columnType := "timestamp", default := some "CURRENT_TIMESTAMP" },
      { name := "updated_at", columnType := "timestamp", default := some "CURRENT_TIMESTAMP",
        onUpdate := some "CURRENT_TIMESTAMP" },
      { name := "user_id", columnType := "int", reference := some (cascadesFrom .user) },
      { name := "title", columnType := "varchar(256)", verboseName := some "title" },
      { name := "content", columnType := "text", verboseName := some "content" }]
  constraints := []
  indexes := []

/-- The rule that a tag is official or has an owner. -/
def tagOwnerConstraint : Constraint where
  kind := .check
  fields := ["is_official", "user_id"]
  name := Schema.tagOwnerCheck
  condition :=
    some "(is_official = TRUE AND user_id IS NULL) OR (is_official = FALSE AND user_id IS NOT NULL)"

/-- The constraint that tag names are unique within their scope. -/
def tagNameConstraint : Constraint where
  kind := .unique
  fields := ["name", "is_official", "user_id"]
  name := Schema.tagNameIndex

/-- The table of tags. -/
def tagTable (variant : Variant) : Table where
  name := Entity.tag.table
  notes :=
    ⟨"Tag",
      ["An official tag has no owner, a personal tag has exactly one",
        "Official tags are not removed when a user is deleted"]⟩
  fields :=
    [keyField,
      { name := "name", columnType := "varchar(50)", verboseName := some "tag name" },
      { name := "is_official", columnType := "boolean", verboseName := some "official tag flag",
        default := some "false" },
      { name := "user_id", columnType := "int", isNull := true,
        reference := some (cascadesFrom .user) }]
  constraints :=
    tagOwnerConstraint :: if variant.hasTagNameIndex then [tagNameConstraint] else []
  indexes := []

/-- The table of attachments. -/
def attachmentTable : Table where
  name := Entity.attachment.table
  notes := ⟨"Memo-tag association", ["The same tag may be attached to a memo more than once"]⟩
  fields :=
    [keyField,
      { name := "memo_id", columnType := "int", reference := some (cascadesFrom .memo) },
      { name := "tag_id", columnType := "int", reference := some (cascadesFrom .tag) }]
  constraints := []
  indexes := []

/-- The tables of a variant, in creation order. -/
def tables (variant : Variant) : List Table :=
  [userTable, memoTable, tagTable variant, attachmentTable]

/-- The table of a variant with a given name. -/
def table? (variant : Variant) (name : String) : Option Table :=
  (tables variant).find? fun table => table.name == name

/-- The name of the unique constraint of a table over exactly the given columns, in
order. The shape with the index on tag names is the one that is asked. -/
def uniqueConstraintFor? (table : String) (columns : List String) : Option String := do
  let found ← table? .uniqueTagName table
  let constraint ← found.constraints.find? fun constraint =>
    constraint.kind == .unique && constraint.fields == columns
  return constraint.name

end MemoStore.Catalog
