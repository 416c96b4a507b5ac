/-!
# Backends and variants

The database engines a schema can be asked for, and the two published shapes of the
schema. The shapes differ in one index only: whether tag names are unique within
their scope.
-/

namespace MemoStore.Schema

/-- A database engine. -/
inductive Backend where
  | mysql
  | postgres
  | sqlite
  deriving DecidableEq, Repr

/-- The name of a backend in messages. -/
def Backend.label : Backend → String
  | .mysql => "MySql"
  | .postgres => "Postgres"
  | .sqlite => "Sqlite"

/-- A shape of the schema. -/
inductive Variant where
  /-- tag names are unique within their scope -/
  | uniqueTagName
  /-- tag names may repeat -/
  | basic
  deriving DecidableEq, Repr

namespace Variant

/-- The variant that a database with or without the index has. -/
def ofIndex (present : Bool) : Variant :=
  if present then .uniqueTagName else .basic

/-- Whether the variant carries the index on tag names. -/
def hasTagNameIndex : Variant → Bool
  | .uniqueTagName => true
  | .basic => false

/-- The name of a variant in messages. -/
def label : Variant → String
  | .uniqueTagName => "UniqueTagName"
  | .basic => "Basic"

@[simp] theorem ofIndex_hasTagNameIndex (variant : Variant) :
    ofIndex variant.hasTagNameIndex = variant := by
  cases variant <;> rfl

@[simp] theorem hasTagNameIndex_ofIndex (present : Bool) :
    (ofIndex present).hasTagNameIndex = present := by
  cases present <;> rfl

end Variant

end MemoStore.Schema
