import MemoStore.Catalog

/-!
# Document trees

What a document says, before any format is chosen: texts, flags, lists and records
whose fields have an order. The catalog is written as such a tree; an attribute that
a field does not have is left out, and so is an empty list of remarks.
-/

namespace MemoStore.Document

/-- A part of a document. -/
inductive Node where
  | text (value : String)
  | flag (value : Bool)
  | list (items : List Node)
  | record (fields : List (String × Node))

namespace Node

/-- A list of texts. -/
def texts (values : List String) : Node :=
  .list (values.map .text)

/-- A field that is left out when there is no value for it. -/
def optional (name : String) (value : Option String) : List (String × Node) :=
  (value.map fun text => (name, Node.text text)).toList

/-- Remarks on a table. -/
def ofNotes (notes : Catalog.Notes) : Node :=
  .record
    (("title", .text notes.title) ::
      if notes.context.isEmpty then [] else [("context", texts notes.context)])

/-- The column that a field refers to. -/
def ofReference (reference : Catalog.Reference) : Node :=
  .record
    [("table", .text reference.table), ("column", .text reference.column),
      ("on_delete", .text reference.onDelete)]

/-- A field of a table. -/
def ofField (field : Catalog.Field) : Node :=
  .record
    ([("name", .text field.name), ("type", .text field.columnType)] ++
      optional "verbose_name" field.verboseName ++
      [("is_null", .flag field.isNull), ("is_unique", .flag field.isUnique),
        ("primary_key", .flag field.primaryKey)] ++
      (if field.autoIncrement then [("auto_increment", .flag true)] else []) ++
      optional "default" field.default ++ optional "on_update" field.onUpdate ++
      (field.reference.map fun reference => ("relation", ofReference reference)).toList)

/-- A constraint. -/
def ofConstraint (constraint : Catalog.Constraint) : Node :=
  .record
    ([("type", .text constraint.kind.label), ("fields", texts constraint.fields),
      ("name", .text constraint.name)] ++
      optional "condition" constraint.condition)

/-- An index. -/
def ofIndex (index : Catalog.Index) : Node :=
  .record [("name", .text index.name), ("fields", texts index.fields)]

/-- A table. -/
def ofTable (table : Catalog.Table) : Node :=
  .record
    [("name", .text table.name), ("doc", ofNotes table.notes),
      ("fields", .list (table.fields.map ofField)),
      ("constraints", .list (table.constraints.map ofConstraint)),
      ("index", .list (table.indexes.map ofIndex))]

/-- A list of tables. -/
def ofTables (tables : List Catalog.Table) : Node :=
  .list (tables.map ofTable)

end Node

end MemoStore.Document
