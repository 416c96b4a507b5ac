import MemoStore.Store.Database

/-!
# Inserting rows

A row is checked in a fixed order: the tables it refers to exist, every required
column has a value, the owner rule of tags holds, the key is new, the unique columns
are new, and the rows it refers to are stored. The first check that fails refuses the
row, and then the database is as it was.
-/

namespace MemoStore.Store

open MemoStore.Record
open MemoStore.Time (Instant)

/-- The value of a required column. -/
def required {α : Type} (entity : Entity) (column : String) (value : Option α) :
    Except Refusal α :=
  match value with
  | some value => .ok value
  | none => .error (.missingValue entity column)

/-- Refuses a statement unless a condition holds. -/
def demand (condition : Bool) (refusal : Refusal) : Except Refusal Unit :=
  if condition then .ok () else .error refusal

/-- Whether a pair of columns obeys the owner rule of tags, as the engine evaluates
it. -/
def ownerRule (isOfficial : Bool) (userId : Option Int) : Bool :=
  (isOfficial && userId.isNone) || (!isOfficial && userId.isSome)

/-- Whether two tags have the same name in the same scope. Official tags never do,
because no owner equals no owner in an index. -/
def sameName (a b : Tag) : Bool :=
  a.name == b.name && a.isOfficial == b.isOfficial && a.userId.isSome && a.userId == b.userId

/-- The refusal of a tag whose name is taken. -/
def nameTaken : Refusal :=
  .duplicate .tag ["name", "is_official", "user_id"]

namespace Database

/-- Whether a user is stored. -/
def holdsUser (db : Database) (id : Int) : Bool :=
  db.users.any (·.holds id)

/-- Whether a memo is stored. -/
def holdsMemo (db : Database) (id : Int) : Bool :=
  db.memos.any (·.holds id)

/-- Whether a tag is stored. -/
def holdsTag (db : Database) (id : Int) : Bool :=
  db.tags.any (·.holds id)

/-- Inserts a user. -/
def insertUser (db : Database) (fields : UserFields) : Except Refusal (Database × User) :=
  match db.users with
  | none => .error (.noTable Entity.user.table)
  | some users => do
    let name ← required .user "name" fields.name
    let code ← required .user "code" fields.code
    let row : User := ⟨fields.id.getD users.nextKey, name, code⟩
    demand (!users.holds row.id) (.duplicateKey .user)
    demand (!users.rows.any fun other => other.code == code) (.duplicate .user ["code"])
    return ({ db with users := some (users.add row) }, row)

/-- Inserts a memo. Times that are not given are filled in. -/
def insertMemo (db : Database) (now : Instant) (fields : MemoFields) :
    Except Refusal (Database × Memo) :=
  match db.memos with
  | none => .error (.noTable Entity.memo.table)
  | some memos => do
    db.requireReferenced (referenced .memo)
    let userId ← required .memo "user_id" fields.userId
    let title ← required .memo "title" fields.title
    let content ← required .memo "content" fields.content
    let row : Memo := {
      id := fields.id.getD memos.nextKey
      createdAt := (fields.createdAt.map .given).getD (.ofClock now)
      updatedAt := (fields.updatedAt.map .given).getD (.ofClock now)
      userId := userId
      title := title
      content := content }
    demand (!memos.holds row.id) (.duplicateKey .memo)
    demand (db.holdsUser userId) .danglingReference
    return ({ db with memos := some { memos with toTable := memos.add row } }, row)

/-- Inserts a tag. A flag that is not given is false, an owner that is not given is
none. -/
def insertTag (db : Database) (fields : TagFields) : Except Refusal (Database × Tag) :=
  match db.tags with
  | none => .error (.noTable Entity.tag.table)
  | some tags => do
    db.requireReferenced (referenced .tag)
    let name ← required .tag "name" fields.name
    let row : Tag := {
      id := fields.id.getD tags.nextKey
      name := name
      isOfficial := fields.isOfficial.getD false
      userId := fields.userId.join }
    demand (ownerRule row.isOfficial row.userId) (.checkFailed Schema.tagOwnerCheck)
    demand (!tags.holds row.id) (.duplicateKey .tag)
    demand (!(tags.uniqueNames && tags.rows.any (sameName row))) nameTaken
    demand (row.userId.all db.holdsUser) .danglingReference
    return ({ db with tags := some { tags with toTable := tags.add row } }, row)

/-- Inserts an attachment. -/
def insertAttachment (db : Database) (fields : AttachmentFields) :
    Except Refusal (Database × Attachment) :=
  match db.attachments with
  | none => .error (.noTable Entity.attachment.table)
  | some attachments => do
    db.requireReferenced (referenced .attachment)
    let memoId ← required .attachment "memo_id" fields.memoId
    let tagId ← required .attachment "tag_id" fields.tagId
    let row : Attachment := ⟨fields.id.getD attachments.nextKey, memoId, tagId⟩
    demand (!attachments.holds row.id) (.duplicateKey .attachment)
    demand (db.holdsMemo memoId && db.holdsTag tagId) .danglingReference
    return ({ db with attachments := some (attachments.add row) }, row)

/-- Inserts a row of any table and gives the stored row. -/
def insert (db : Database) (now : Instant) : Fields → Except Refusal (Database × Row)
  | .user fields => (db.insertUser fields).map fun (db, row) => (db, .user row)
  | .memo fields => (db.insertMemo now fields).map fun (db, row) => (db, .memo row)
  | .tag fields => (db.insertTag fields).map fun (db, row) => (db, .tag row)
  | .attachment fields => (db.insertAttachment fields).map fun (db, row) => (db, .attachment row)

end Database

end MemoStore.Store
