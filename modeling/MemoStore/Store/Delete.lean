import MemoStore.Store.Database

/-!
# Deleting rows

A deletion takes with it every row that refers to a deleted one: the memos and the
personal tags of a user, and the attachments of a memo or a tag. A deletion that would
reach a table whose referenced tables are not all there is refused before it starts,
even if no row would be reached.
-/

namespace MemoStore.Store

open MemoStore.Record (Entity)

namespace Database

/-- Removes attachments. -/
def removeAttachments (db : Database) (p : Attachment → Bool) : Database :=
  { db with attachments := db.attachments.map fun table => table.remove p }

/-- Whether a memo with a key is among those that satisfy `p`. -/
def memoAmong (db : Database) (p : Memo → Bool) (id : Int) : Bool :=
  db.memos.any fun table => table.rows.any fun row => row.id == id && p row

/-- Whether a tag with a key is among those that satisfy `p`. -/
def tagAmong (db : Database) (p : Tag → Bool) (id : Int) : Bool :=
  db.tags.any fun table => table.rows.any fun row => row.id == id && p row

/-- Whether a user with a key is among those that satisfy `p`. -/
def userAmong (db : Database) (p : User → Bool) (id : Int) : Bool :=
  db.users.any fun table => table.rows.any fun row => row.id == id && p row

/-- Removes memos with their attachments. -/
def removeMemos (db : Database) (p : Memo → Bool) : Database :=
  let left := db.removeAttachments fun attachment => db.memoAmong p attachment.memoId
  { left with memos := db.memos.map fun table => { table with toTable := table.remove p } }

/-- Removes tags with their attachments. -/
def removeTags (db : Database) (p : Tag → Bool) : Database :=
  let left := db.removeAttachments fun attachment => db.tagAmong p attachment.tagId
  { left with tags := db.tags.map fun table => { table with toTable := table.remove p } }

/-- Removes users with their memos and personal tags. -/
def removeUsers (db : Database) (p : User → Bool) : Database :=
  let withoutMemos := db.removeMemos fun memo => db.userAmong p memo.userId
  let left := withoutMemos.removeTags fun tag => tag.userId.any (db.userAmong p)
  { left with users := db.users.map fun table => table.remove p }

/-- Removes the rows of a table whose keys satisfy `p`, with everything that refers to
them. -/
def removeRows (db : Database) (entity : Entity) (p : Int → Bool) : Database :=
  match entity with
  | .user => db.removeUsers fun row => p row.id
  | .memo => db.removeMemos fun row => p row.id
  | .tag => db.removeTags fun row => p row.id
  | .attachment => db.removeAttachments fun row => p row.id

/-- Refuses a deletion that reaches attachments while one of the tables they refer to
is missing. -/
def requireCascade (db : Database) (entity : Entity) : Except Refusal Unit :=
  let reaches :=
    match entity with
    | .user => db.has .memo || db.has .tag
    | .memo | .tag => true
    | .attachment => false
  if reaches && db.has .attachment then db.requireReferenced (referenced .attachment)
  else .ok ()

/-- Deletes the rows of a table whose keys satisfy `p` and gives their number, in
which the rows that go with them do not count. -/
def delete (db : Database) (entity : Entity) (p : Int → Bool) :
    Except Refusal (Database × Nat) := do
  db.requireTable entity
  db.requireReferenced (referenced entity)
  db.requireCascade entity
  let count := ((db.rows? entity).getD []).countP fun row => p row.key
  return (db.removeRows entity p, count)

end Database

end MemoStore.Store
