import MemoStore.Store.Insert

/-!
# Updating rows

An update sets columns of the row with a key; the key itself is never rewritten. A
key that is not stored is no error, only no row is affected. The new row is checked
like an inserted one, but against the other rows. A memo whose last change is left at
the value it had, while something else about it changes, is touched: the trigger sets
its last change to the current second.
-/

namespace MemoStore.Store

open MemoStore.Record
open MemoStore.Time (Instant)

/-- A user with columns set. -/
def User.set (row : User) (fields : UserFields) : User :=
  { row with name := fields.name.getD row.name, code := fields.code.getD row.code }

/-- A memo with columns set. -/
def Memo.set (row : Memo) (fields : MemoFields) : Memo :=
  { row with
    createdAt := (fields.createdAt.map .given).getD row.createdAt
    updatedAt := (fields.updatedAt.map .given).getD row.updatedAt
    userId := fields.userId.getD row.userId
    title := fields.title.getD row.title
    content := fields.content.getD row.content }

/-- A tag with columns set. -/
def Tag.set (row : Tag) (fields : TagFields) : Tag :=
  { row with
    name := fields.name.getD row.name
    isOfficial := fields.isOfficial.getD row.isOfficial
    userId := fields.userId.getD row.userId }

/-- An attachment with columns set. -/
def Attachment.set (row : Attachment) (fields : AttachmentFields) : Attachment :=
  { row with memoId := fields.memoId.getD row.memoId, tagId := fields.tagId.getD row.tagId }

/-- Whether the trigger on memos fires when `old` becomes `new`. -/
def touchFires (old new : Memo) : Bool :=
  new.updatedAt == old.updatedAt &&
    (new.title != old.title || new.content != old.content || new.userId != old.userId ||
      new.createdAt != old.createdAt)

/-- What the trigger on memos makes of `new`. -/
def touched (now : Instant) (old new : Memo) : Memo :=
  if touchFires old new then { new with updatedAt := .ofClock now } else new

namespace Database

/-- Updates a user and gives the number of affected rows. -/
def updateUser (db : Database) (id : Int) (fields : UserFields) :
    Except Refusal (Database × Nat) :=
  match db.users with
  | none => .error (.noTable Entity.user.table)
  | some users =>
    match users.find? id with
    | none => .ok (db, 0)
    | some old => do
      let row := old.set fields
      demand (!users.rows.any fun other => other.id != id && other.code == row.code)
        (.duplicate .user ["code"])
      return ({ db with users := some (users.replace row) }, 1)

/-- Updates a memo and gives the number of affected rows. -/
def updateMemo (db : Database) (now : Instant) (id : Int) (fields : MemoFields) :
    Except Refusal (Database × Nat) :=
  match db.memos with
  | none => .error (.noTable Entity.memo.table)
  | some memos => do
    db.requireReferenced (if fields.userId.isSome then referenced .memo else [])
    match memos.find? id with
    | none => return (db, 0)
    | some old =>
      let new := old.set fields
      let row := if memos.touches then touched now old new else new
      demand (fields.userId.all db.holdsUser) .danglingReference
      return ({ db with memos := some { memos with toTable := memos.replace row } }, 1)

/-- Updates a tag and gives the number of affected rows. -/
def updateTag (db : Database) (id : Int) (fields : TagFields) :
    Except Refusal (Database × Nat) :=
  match db.tags with
  | none => .error (.noTable Entity.tag.table)
  | some tags => do
    db.requireReferenced (if fields.userId.isSome then referenced .tag else [])
    match tags.find? id with
    | none => return (db, 0)
    | some old =>
      let row := old.set fields
      demand (ownerRule row.isOfficial row.userId) (.checkFailed Schema.tagOwnerCheck)
      demand
        (!(tags.uniqueNames && tags.rows.any fun other => other.id != id && sameName row other))
        nameTaken
      demand (fields.userId.join.all db.holdsUser) .danglingReference
      return ({ db with tags := some { tags with toTable := tags.replace row } }, 1)

/-- Updates an attachment and gives the number of affected rows. -/
def updateAttachment (db : Database) (id : Int) (fields : AttachmentFields) :
    Except Refusal (Database × Nat) :=
  match db.attachments with
  | none => .error (.noTable Entity.attachment.table)
  | some attachments => do
    db.requireReferenced
      ((if fields.tagId.isSome then [.tag] else []) ++
        if fields.memoId.isSome then [.memo] else [])
    match attachments.find? id with
    | none => return (db, 0)
    | some old =>
      let row := old.set fields
      demand (fields.memoId.all db.holdsMemo && fields.tagId.all db.holdsTag) .danglingReference
      return ({ db with attachments := some (attachments.replace row) }, 1)

/-- Updates the row with a key, in any table, and gives the number of affected
rows. -/
def update (db : Database) (now : Instant) (id : Int) :
    Fields → Except Refusal (Database × Nat)
  | .user fields => db.updateUser id fields
  | .memo fields => db.updateMemo now id fields
  | .tag fields => db.updateTag id fields
  | .attachment fields => db.updateAttachment id fields

end Database

end MemoStore.Store
