import MemoStore.Store.Database

/-!
# Contents of a database

What the four tables of a database hold. A table that is missing holds nothing, so the
contents can be compared whether or not the tables exist.
-/

namespace MemoStore.Store.Database

/-- What the table of users holds. -/
def userTable (db : Database) : Table User :=
  db.users.getD {}

/-- What the table of memos holds. -/
def memoTable (db : Database) : Table Memo :=
  (db.memos.map MemoTable.toTable).getD {}

/-- What the table of tags holds. -/
def tagTable (db : Database) : Table Tag :=
  (db.tags.map TagTable.toTable).getD {}

/-- What the table of attachments holds. -/
def attachmentTable (db : Database) : Table Attachment :=
  db.attachments.getD {}

/-- Whether two databases hold the same rows in the same order, and go on with the same
keys. -/
structure SameContents (before after : Database) : Prop where
  users : after.userTable = before.userTable
  memos : after.memoTable = before.memoTable
  tags : after.tagTable = before.tagTable
  attachments : after.attachmentTable = before.attachmentTable

namespace SameContents

variable {first second third : Database}

/-- A database has the contents that it has. -/
theorem refl (db : Database) : SameContents db db :=
  ⟨rfl, rfl, rfl, rfl⟩

/-- Databases have the same contents in either order. -/
theorem symm (same : SameContents first second) : SameContents second first :=
  ⟨same.users.symm, same.memos.symm, same.tags.symm, same.attachments.symm⟩

/-- Databases with the contents of a third one have the same contents. -/
theorem trans (left : SameContents first second) (right : SameContents second third) :
    SameContents first third :=
  ⟨right.users.trans left.users, right.memos.trans left.memos, right.tags.trans left.tags,
    right.attachments.trans left.attachments⟩

end SameContents

end MemoStore.Store.Database
