import MemoStore.Record.Entity
import MemoStore.Record.Scope
import MemoStore.Time.Instant

/-!
# Column assignments

The columns that a write sets, for each entity. A column that is not set keeps its
stored value in an update and gets its default in an insert. The owner of a tag is
the one column that may be set to no value at all.
-/

namespace MemoStore.Record

open MemoStore.Time (Instant)

/-- A value bound to a statement. -/
inductive Value where
  | null
  | int (value : Int)
  | text (value : String)
  | bool (value : Bool)
  | time (value : Instant)
  deriving DecidableEq, Repr

/-- The columns of a user that a write sets. -/
structure UserFields where
  id : Option Int := none
  name : Option String := none
  code : Option String := none
  deriving DecidableEq, Repr

/-- The columns of a memo that a write sets. -/
structure MemoFields where
  id : Option Int := none
  createdAt : Option Instant := none
  updatedAt : Option Instant := none
  userId : Option Int := none
  title : Option String := none
  content : Option String := none
  deriving DecidableEq, Repr

/-- The columns of a tag that a write sets. -/
structure TagFields where
  id : Option Int := none
  name : Option String := none
  isOfficial : Option Bool := none
  userId : Option (Option Int) := none
  deriving DecidableEq, Repr

/-- The columns of an attachment that a write sets. -/
structure AttachmentFields where
  id : Option Int := none
  memoId : Option Int := none
  tagId : Option Int := none
  deriving DecidableEq, Repr

namespace TagFields

/-- A tag of a given scope, which sets the name and both scope columns. -/
def inScope (name : String) (scope : Scope) : TagFields where
  name := some name
  isOfficial := some scope.isOfficial
  userId := some scope.owner

/-- An official tag. -/
def official (name : String) : TagFields :=
  inScope name .official

/-- A personal tag of a user. -/
def personal (name : String) (owner : Int) : TagFields :=
  inScope name (.personal owner)

end TagFields

/-- The columns that a write sets, whatever the entity. -/
inductive Fields where
  | user (fields : UserFields)
  | memo (fields : MemoFields)
  | tag (fields : TagFields)
  | attachment (fields : AttachmentFields)
  deriving DecidableEq, Repr

/-- A named assignment, present if a value is given. -/
def assign {α : Type} (name : String) (value : α → Value) (given : Option α) :
    List (String × Value) :=
  (given.map fun a => (name, value a)).toList

namespace Fields

/-- The entity that the columns belong to. -/
def entity : Fields → Entity
  | .user _ => .user
  | .memo _ => .memo
  | .tag _ => .tag
  | .attachment _ => .attachment

/-- The explicit key, if the write sets one. -/
def id? : Fields → Option Int
  | .user f => f.id
  | .memo f => f.id
  | .tag f => f.id
  | .attachment f => f.id

/-- The set columns with their values, in declaration order. -/
def assignments : Fields → List (String × Value)
  | .user f => assign "id" .int f.id ++ assign "name" .text f.name ++ assign "code" .text f.code
  | .memo f =>
    assign "id" .int f.id ++ assign "created_at" .time f.createdAt ++
      assign "updated_at" .time f.updatedAt ++ assign "user_id" .int f.userId ++
      assign "title" .text f.title ++ assign "content" .text f.content
  | .tag f =>
    assign "id" .int f.id ++ assign "name" .text f.name ++
      assign "is_official" .bool f.isOfficial ++
      assign "user_id" (fun owner => (owner.map Value.int).getD .null) f.userId
  | .attachment f =>
    assign "id" .int f.id ++ assign "memo_id" .int f.memoId ++ assign "tag_id" .int f.tagId

/-- The set columns other than the key, which is never rewritten. -/
def changes (fields : Fields) : List (String × Value) :=
  fields.assignments.filter fun (name, _) => name != Entity.key.name

end Fields

end MemoStore.Record
