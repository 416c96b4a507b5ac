import MemoStore.Record.Fields
import MemoStore.Record.Link

/-!
# Stored rows

The rows of the four tables. A time is kept as it was written: one given with a row
is an instant, one filled in by the engine is a whole second. The two are different
values even where they mean the same moment, and rows compare them as values.
-/

namespace MemoStore.Store

open MemoStore.Record (Entity Scope Link)
open MemoStore.Time (Instant)

/-- A stored time. -/
inductive Stamp where
  /-- given with the row -/
  | given (instant : Instant)
  /-- filled in by the engine, to the second -/
  | filled (second : Int)
  deriving DecidableEq, Repr

namespace Stamp

/-- The moment that a stored time means. -/
def instant : Stamp → Instant
  | .given instant => instant
  | .filled second => ⟨second, 0⟩

/-- The time that the engine fills in at a moment. -/
def ofClock (now : Instant) : Stamp :=
  .filled now.seconds

end Stamp

/-- A stored user. -/
structure User where
  id : Int
  name : String
  code : String
  deriving DecidableEq, Repr

/-- A stored memo. -/
structure Memo where
  id : Int
  createdAt : Stamp
  updatedAt : Stamp
  userId : Int
  title : String
  content : String
  deriving DecidableEq, Repr

/-- A stored tag. -/
structure Tag where
  id : Int
  name : String
  isOfficial : Bool
  userId : Option Int
  deriving DecidableEq, Repr

/-- A stored attachment of a tag to a memo. -/
structure Attachment where
  id : Int
  memoId : Int
  tagId : Int
  deriving DecidableEq, Repr

/-- The scope of a stored tag. -/
def Tag.scope? (tag : Tag) : Option Scope :=
  Scope.ofColumns? tag.isOfficial tag.userId

/-- Rows that have a key. -/
class Keyed (α : Type) where
  key : α → Int

instance : Keyed User := ⟨User.id⟩
instance : Keyed Memo := ⟨Memo.id⟩
instance : Keyed Tag := ⟨Tag.id⟩
instance : Keyed Attachment := ⟨Attachment.id⟩

/-- A stored row, whatever its table. -/
inductive Row where
  | user (row : User)
  | memo (row : Memo)
  | tag (row : Tag)
  | attachment (row : Attachment)
  deriving DecidableEq, Repr

namespace Row

/-- The key of a row. -/
def key : Row → Int
  | .user row => row.id
  | .memo row => row.id
  | .tag row => row.id
  | .attachment row => row.id

/-- The value of a column that holds a key of this or another table. -/
def keyColumn? (column : String) : Row → Option Int
  | .user row => if column = "id" then some row.id else none
  | .memo row =>
    if column = "id" then some row.id
    else if column = "user_id" then some row.userId
    else none
  | .tag row =>
    if column = "id" then some row.id
    else if column = "user_id" then row.userId
    else none
  | .attachment row =>
    if column = "id" then some row.id
    else if column = "memo_id" then some row.memoId
    else if column = "tag_id" then some row.tagId
    else none

end Row

/-- Whether a link joins two rows: both columns have a value, and the same. -/
def joins (link : Link) (source target : Row) : Bool :=
  match source.keyColumn? link.sourceColumn, target.keyColumn? link.targetColumn with
  | some a, some b => a == b
  | _, _ => false

end MemoStore.Store
