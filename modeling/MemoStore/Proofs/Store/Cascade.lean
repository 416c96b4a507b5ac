import MemoStore.Proofs.Store.Runs

/-!
# Cascades

`Falls` says which rows a deletion takes along in terms of the declared links alone: a row
falls if it is deleted, or if a link on which deletions cascade joins it to a row that
falls. In a sound database this is what `falls` computes from the columns, and
`Reachable.deletion` says that a deletion removes exactly these rows, in every reachable
database.
-/

namespace MemoStore.Record

/-- A declared link on which deletions cascade. -/
def Link.Cascades (link : Link) : Prop :=
  ∃ entity name, (name, link) ∈ Entity.links entity ∧ link.onDelete = some .cascade

/-- Deletions cascade from the side that holds the foreign key. -/
theorem Link.cascades_iff {link : Link} :
    link.Cascades ↔ link ∈ [memoOwner, tagOwner, attachedMemo, attachedTag] := by
  constructor
  · rintro ⟨entity, name, declared, cascading⟩
    cases entity <;> simp only [Entity.links, List.mem_cons, Prod.mk.injEq, List.not_mem_nil,
      or_false] at declared <;> rcases declared with ⟨-, rfl⟩ | ⟨-, rfl⟩ <;>
      first | (cases cascading; done) | simp
  · simp only [List.mem_cons, List.not_mem_nil, or_false]
    rintro (rfl | rfl | rfl | rfl)
    · exact ⟨.memo, "User", by simp [Entity.links], rfl⟩
    · exact ⟨.tag, "User", by simp [Entity.links], rfl⟩
    · exact ⟨.attachment, "Memo", by simp [Entity.links], rfl⟩
    · exact ⟨.attachment, "Tag", by simp [Entity.links], rfl⟩

end MemoStore.Record

namespace MemoStore.Store

open MemoStore.Record (Entity Fields Link memoOwner tagOwner attachedMemo attachedTag)
open MemoStore.Schema (Variant)
open MemoStore.Time (Instant)

/-- The entity that a row belongs to. -/
def Row.entity : Row → Entity
  | .user _ => .user
  | .memo _ => .memo
  | .tag _ => .tag
  | .attachment _ => .attachment

/-- Whether a link joins two rows of the entities that it is between. -/
def Row.RefersTo (link : Link) (source target : Row) : Prop :=
  source.entity = link.source ∧ target.entity = link.target ∧ joins link source target = true

namespace Row

variable {source target : Row}

/-- Along the first declared link a memo refers to its owner. -/
theorem refersTo_memoOwner :
    RefersTo memoOwner source target ↔
      ∃ memo user, source = .memo memo ∧ target = .user user ∧ memo.userId = user.id := by
  cases source <;> cases target <;>
    simp [RefersTo, entity, memoOwner, Link.belongsTo, joins, keyColumn?, Entity.key]

/-- Along the second declared link a tag refers to its owner, if it has one. -/
theorem refersTo_tagOwner :
    RefersTo tagOwner source target ↔
      ∃ tag user, source = .tag tag ∧ target = .user user ∧ tag.userId = some user.id := by
  cases source <;> cases target <;>
    simp [RefersTo, entity, tagOwner, Link.belongsTo, joins, keyColumn?, Entity.key]
  rename_i tag user
  cases tag.userId <;> simp

/-- Along the third declared link an attachment refers to its memo. -/
theorem refersTo_attachedMemo :
    RefersTo attachedMemo source target ↔
      ∃ attachment memo, source = .attachment attachment ∧ target = .memo memo ∧
        attachment.memoId = memo.id := by
  cases source <;> cases target <;>
    simp [RefersTo, entity, attachedMemo, Link.belongsTo, joins, keyColumn?, Entity.key]

/-- Along the fourth declared link an attachment refers to its tag. -/
theorem refersTo_attachedTag :
    RefersTo attachedTag source target ↔
      ∃ attachment tag, source = .attachment attachment ∧ target = .tag tag ∧
        attachment.tagId = tag.id := by
  cases source <;> cases target <;>
    simp [RefersTo, entity, attachedTag, Link.belongsTo, joins, keyColumn?, Entity.key]

end Row

namespace Database

/-- The stored rows of all tables. -/
def Stored (db : Database) (row : Row) : Prop :=
  row ∈ (db.rows? row.entity).getD []

/-- The rows that fall when the rows of a table with the keys of `p` are deleted. -/
inductive Falls (db : Database) (entity : Entity) (p : Int → Bool) : Row → Prop where
  | deleted {row : Row} :
      db.Stored row → row.entity = entity → p row.key = true → Falls db entity p row
  | taken {link : Link} {source target : Row} :
      Falls db entity p target → db.Stored source → link.Cascades →
        Row.RefersTo link source target → Falls db entity p source

variable {db : Database} {entity : Entity} {p : Int → Bool}

/-- A user is stored when the table of users has it. -/
theorem stored_user {row : User} : db.Stored (.user row) ↔ row ∈ db.userTable.rows := by
  cases stored : db.users <;> simp [Stored, rows?, Row.entity, userTable, stored]

/-- A memo is stored when the table of memos has it. -/
theorem stored_memo {row : Memo} : db.Stored (.memo row) ↔ row ∈ db.memoTable.rows := by
  cases stored : db.memos <;> simp [Stored, rows?, Row.entity, memoTable, stored]

/-- A tag is stored when the table of tags has it. -/
theorem stored_tag {row : Tag} : db.Stored (.tag row) ↔ row ∈ db.tagTable.rows := by
  cases stored : db.tags <;> simp [Stored, rows?, Row.entity, tagTable, stored]

/-- An attachment is stored when its table has it. -/
theorem stored_attachment {row : Attachment} :
    db.Stored (.attachment row) ↔ row ∈ db.attachmentTable.rows := by
  cases stored : db.attachments <;> simp [Stored, rows?, Row.entity, attachmentTable, stored]

/-- What falls is computed from the columns: an induction along the links. -/
theorem Falls.falls {row : Row} (fallen : db.Falls entity p row) :
    db.Stored row ∧ db.falls entity p row = true := by
  induction fallen with
  | @deleted row stored same chosen =>
      subst same
      refine ⟨stored, ?_⟩
      cases row <;> exact chosen
  | @taken link source target _ stored cascades refers inductionHypothesis =>
      obtain ⟨targetStored, targetFalls⟩ := inductionHypothesis
      have closed : db.Closed (db.falls entity p) := closed_falls entity p
      refine ⟨stored, ?_⟩
      rw [Link.cascades_iff] at cascades
      simp only [List.mem_cons, List.not_mem_nil, or_false] at cascades
      rcases cascades with rfl | rfl | rfl | rfl
      · obtain ⟨memo, user, rfl, rfl, owner⟩ := Row.refersTo_memoOwner.mp refers
        exact closed.memos memo (stored_memo.mp stored) user (stored_user.mp targetStored)
          owner.symm targetFalls
      · obtain ⟨tag, user, rfl, rfl, owner⟩ := Row.refersTo_tagOwner.mp refers
        exact closed.tags tag (stored_tag.mp stored) user (stored_user.mp targetStored) owner
          targetFalls
      · obtain ⟨attachment, memo, rfl, rfl, attached⟩ := Row.refersTo_attachedMemo.mp refers
        exact closed.attachedMemos attachment (stored_attachment.mp stored) memo
          (stored_memo.mp targetStored) attached.symm targetFalls
      · obtain ⟨attachment, tag, rfl, rfl, attached⟩ := Row.refersTo_attachedTag.mp refers
        exact closed.attachedTags attachment (stored_attachment.mp stored) tag
          (stored_tag.mp targetStored) attached.symm targetFalls

/-- A memo falls with its owner. -/
theorem Falls.memo {memo : Memo} {user : User} (fallen : db.Falls entity p (.user user))
    (stored : memo ∈ db.memoTable.rows) (owner : memo.userId = user.id) :
    db.Falls entity p (.memo memo) :=
  .taken fallen (stored_memo.mpr stored) (Link.cascades_iff.mpr (by simp))
    (Row.refersTo_memoOwner.mpr ⟨memo, user, rfl, rfl, owner⟩)

/-- A tag falls with its owner. -/
theorem Falls.tag {tag : Tag} {user : User} (fallen : db.Falls entity p (.user user))
    (stored : tag ∈ db.tagTable.rows) (owner : tag.userId = some user.id) :
    db.Falls entity p (.tag tag) :=
  .taken fallen (stored_tag.mpr stored) (Link.cascades_iff.mpr (by simp))
    (Row.refersTo_tagOwner.mpr ⟨tag, user, rfl, rfl, owner⟩)

/-- An attachment falls with its memo. -/
theorem Falls.attachedTo {memo : Memo} {attachment : Attachment}
    (fallen : db.Falls entity p (.memo memo)) (stored : db.Stored (.attachment attachment))
    (attached : memo.id = attachment.memoId) : db.Falls entity p (.attachment attachment) :=
  .taken fallen stored (Link.cascades_iff.mpr (by simp))
    (Row.refersTo_attachedMemo.mpr ⟨attachment, memo, rfl, rfl, attached.symm⟩)

/-- An attachment falls with its tag. -/
theorem Falls.attachedBy {tag : Tag} {attachment : Attachment}
    (fallen : db.Falls entity p (.tag tag)) (stored : db.Stored (.attachment attachment))
    (attached : tag.id = attachment.tagId) : db.Falls entity p (.attachment attachment) :=
  .taken fallen stored (Link.cascades_iff.mpr (by simp))
    (Row.refersTo_attachedTag.mpr ⟨attachment, tag, rfl, rfl, attached.symm⟩)

/-- The memos whose owner is named fall when users are deleted: the owner is stored. -/
theorem Linked.memo_falls (linked : db.Linked) {memo : Memo} (stored : memo ∈ db.memoTable.rows)
    (chosen : p memo.userId = true) : db.Falls .user p (.memo memo) := by
  obtain ⟨user, userStored, owner⟩ := linked.memoOwners memo stored
  have userFalls : db.Falls .user p (.user user) :=
    .deleted (stored_user.mpr userStored) rfl ((congrArg p owner).trans chosen)
  exact userFalls.memo stored owner.symm

/-- The tags whose owner is named fall when users are deleted: the owner is stored. -/
theorem Linked.tag_falls (linked : db.Linked) {tag : Tag} (stored : tag ∈ db.tagTable.rows)
    (chosen : tag.userId.any p = true) : db.Falls .user p (.tag tag) := by
  obtain ⟨owner, given, named⟩ := (Option.any_eq_true _ _).mp chosen
  obtain ⟨user, userStored, rfl⟩ := linked.tagOwners tag stored owner given
  have userFalls : db.Falls .user p (.user user) :=
    .deleted (stored_user.mpr userStored) rfl named
  exact userFalls.tag stored given

/-- In a database with intact references the rows that the columns tell to fall are those
that the links reach. -/
theorem falls_iff (linked : db.Linked) {row : Row} (stored : db.Stored row) :
    db.falls entity p row = true ↔ db.Falls entity p row := by
  refine ⟨fun chosen => ?_, fun fallen => fallen.falls.2⟩
  cases entity with
  | user =>
      cases row with
      | user user => exact .deleted stored rfl chosen
      | memo memo => exact linked.memo_falls (stored_memo.mp stored) chosen
      | tag tag => exact linked.tag_falls (stored_tag.mp stored) chosen
      | attachment attachment =>
          simp only [falls, Bool.or_eq_true, List.any_eq_true, Bool.and_eq_true,
            beq_iff_eq] at chosen
          rcases chosen with ⟨memo, member, attached, chosen⟩ | ⟨tag, member, attached, chosen⟩
          · exact (linked.memo_falls member chosen).attachedTo stored attached
          · exact (linked.tag_falls member chosen).attachedBy stored attached
  | memo =>
      cases row with
      | memo memo => exact .deleted stored rfl chosen
      | attachment attachment =>
          obtain ⟨memo, member, attached⟩ :=
            linked.attachedMemos attachment (stored_attachment.mp stored)
          have memoFalls : db.Falls .memo p (.memo memo) :=
            .deleted (stored_memo.mpr member) rfl ((congrArg p attached).trans chosen)
          exact memoFalls.attachedTo stored attached
      | user | tag => cases chosen
  | tag =>
      cases row with
      | tag tag => exact .deleted stored rfl chosen
      | attachment attachment =>
          obtain ⟨tag, member, attached⟩ :=
            linked.attachedTags attachment (stored_attachment.mp stored)
          have tagFalls : db.Falls .tag p (.tag tag) :=
            .deleted (stored_tag.mpr member) rfl ((congrArg p attached).trans chosen)
          exact tagFalls.attachedBy stored attached
      | user | memo => cases chosen
  | attachment =>
      cases row with
      | attachment attachment => exact .deleted stored rfl chosen
      | user | memo | tag => cases chosen

/-- Some row that falls is one of those that were to be deleted. -/
theorem Falls.exists_deleted {row : Row} (fallen : db.Falls entity p row) :
    ∃ target, db.Stored target ∧ target.entity = entity ∧ p target.key = true := by
  induction fallen with
  | @deleted row stored same chosen => exact ⟨row, stored, same, chosen⟩
  | taken _ _ _ _ inductionHypothesis => exact inductionHypothesis

namespace Lost

variable {after : Database} {f : Row → Bool}

/-- No table goes with its rows. -/
theorem has_eq (lost : Lost db after f) (complete : db.Complete) (kind : Entity) :
    after.has kind = true :=
  (lost.objects (.table kind)).trans (complete.tables kind)

/-- Of the users those are left that do not fall. -/
theorem users_left (lost : Lost db after f) (complete : db.Complete) :
    ∃ before, db.users = some before ∧
      after.users = some (before.remove fun row => f (.user row)) := by
  have left := users_of_has (lost.has_eq complete .user)
  rw [lost.users] at left
  exact ⟨db.userTable, users_of_has (complete.tables .user), left⟩

/-- Of the memos those are left that do not fall, and their trigger stays. -/
theorem memos_left (lost : Lost db after f) (complete : db.Complete) :
    ∃ before, db.memos = some before ∧
      after.memos = some { before with toTable := before.remove fun row => f (.memo row) } := by
  obtain ⟨before, stored, table⟩ := memos_of_has (complete.tables .memo)
  obtain ⟨⟨left, touches⟩, leftStored, leftTable⟩ := memos_of_has (lost.has_eq complete .memo)
  have same := lost.memos
  have trigger : after.touchesMemos = db.touchesMemos := lost.objects (.trigger .touchMemo)
  rw [table, leftTable] at same
  simp only [touchesMemos, stored, leftStored, Option.any_some] at trigger
  cases same
  cases trigger
  exact ⟨before, stored, leftStored⟩

/-- Of the tags those are left that do not fall, and the variant of their table stays. -/
theorem tags_left (lost : Lost db after f) (complete : db.Complete) :
    ∃ before, db.tags = some before ∧
      after.tags = some { before with toTable := before.remove fun row => f (.tag row) } := by
  obtain ⟨before, stored, table⟩ := tags_of_has (complete.tables .tag)
  obtain ⟨⟨left, unique⟩, leftStored, leftTable⟩ := tags_of_has (lost.has_eq complete .tag)
  have same := lost.tags
  have index : after.uniqueTagNames = db.uniqueTagNames := lost.objects .tagNameIndex
  rw [table, leftTable] at same
  simp only [uniqueTagNames, stored, leftStored, Option.any_some] at index
  cases same
  cases index
  exact ⟨before, stored, leftStored⟩

/-- Of the attachments those are left that do not fall. -/
theorem attachments_left (lost : Lost db after f) (complete : db.Complete) :
    ∃ before, db.attachments = some before ∧
      after.attachments = some (before.remove fun row => f (.attachment row)) := by
  have left := attachments_of_has (lost.has_eq complete .attachment)
  rw [lost.attachments] at left
  exact ⟨db.attachmentTable, attachments_of_has (complete.tables .attachment), left⟩

/-- The rows that are left of each table, in their order. -/
theorem rows?_eq (lost : Lost db after f) (complete : db.Complete) (kind : Entity) :
    after.rows? kind = (db.rows? kind).map fun rows => rows.filter fun row => !f row := by
  cases kind with
  | user =>
      obtain ⟨before, stored, left⟩ := lost.users_left complete
      simp [rows?, stored, left, Table.remove, List.filter_map, Function.comp_def]
  | memo =>
      obtain ⟨before, stored, left⟩ := lost.memos_left complete
      simp [rows?, stored, left, Table.remove, List.filter_map, Function.comp_def]
  | tag =>
      obtain ⟨before, stored, left⟩ := lost.tags_left complete
      simp [rows?, stored, left, Table.remove, List.filter_map, Function.comp_def]
  | attachment =>
      obtain ⟨before, stored, left⟩ := lost.attachments_left complete
      simp [rows?, stored, left, Table.remove, List.filter_map, Function.comp_def]

/-- Nothing changes if no row is lost. -/
theorem eq_of_none (lost : Lost db after f) (complete : db.Complete)
    (keys : after.keepsKeys = db.keepsKeys) (none : ∀ row, db.Stored row → f row = false) :
    after = db := by
  have users : after.users = db.users := by
    obtain ⟨before, stored, left⟩ := lost.users_left complete
    rw [stored, left, Table.remove_none]
    exact fun row member => none _ (stored_user.mpr (userTable_of_stored stored ▸ member))
  have memos : after.memos = db.memos := by
    obtain ⟨before, stored, left⟩ := lost.memos_left complete
    rw [stored, left, Table.remove_none]
    exact fun row member => none _ (stored_memo.mpr (memoTable_of_stored stored ▸ member))
  have tags : after.tags = db.tags := by
    obtain ⟨before, stored, left⟩ := lost.tags_left complete
    rw [stored, left, Table.remove_none]
    exact fun row member => none _ (stored_tag.mpr (tagTable_of_stored stored ▸ member))
  have attachments : after.attachments = db.attachments := by
    obtain ⟨before, stored, left⟩ := lost.attachments_left complete
    rw [stored, left, Table.remove_none]
    exact fun row member =>
      none _ (stored_attachment.mpr (attachmentTable_of_stored stored ▸ member))
  cases after
  cases db
  simp_all only

end Lost

end Database

/-- The deletion that a request asks for: the table, and the keys of the rows that are to go. -/
def Request.deletion? : Request → Option (Entity × (Int → Bool))
  | .delete entity id => some (entity, fun key => key == id)
  | .deleteAll entity => some (entity, fun _ => true)
  | _ => none

/-- In every reachable database a deletion removes the rows that fall with it and nothing
else: the other rows stay as they are and in their order. The rows that fall are what the
declared links reach from the deleted rows, and nothing changes if none is deleted. -/
theorem Connection.Reachable.deletion {variant : Variant} {connection : Connection}
    (reachable : Reachable variant connection) (now : Instant) {request : Request}
    {entity : Entity} {p : Int → Bool} (deletes : request.deletion? = some (entity, p)) :
    let reply := connection.handle now request
    ∃ db after, connection.storage = .database db ∧ reply.connection.storage = .database after ∧
      reply.answer = .affected (((db.rows? entity).getD []).countP fun row => p row.key) ∧
      (∀ kind, after.rows? kind =
        (db.rows? kind).map fun rows => rows.filter fun row => !db.falls entity p row) ∧
      (∀ row, db.Stored row → (db.falls entity p row = true ↔ db.Falls entity p row)) ∧
      ((∀ row, db.Stored row → row.entity = entity → p row.key = false) → after = db) := by
  obtain ⟨db, on, sound⟩ := reachable.sound
  intro reply
  let count := ((db.rows? entity).getD []).countP fun row => p row.key
  have deleted : (connection.write fun db => db.delete entity p) =
      .ok (connection.wrote (db.removeRows entity p), count) := by
    rw [write_on on, Database.delete_eq sound]
    rfl
  have replied : reply =
      { connection := connection.wrote (db.removeRows entity p), answer := .affected count } := by
    cases request with
    | delete kind id =>
        cases deletes
        simp only [reply, handle, delete, deleted]
        rfl
    | deleteAll kind =>
        cases deletes
        simp only [reply, handle, deleteAll, deleted]
        rfl
    | _ => cases deletes
  have lost := Database.lost_removeRows sound.toLinked entity p
  refine ⟨db, db.removeRows entity p, on.storage, ?_, ?_, lost.rows?_eq sound.complete,
    fun row => Database.falls_iff sound.toLinked, fun absent => ?_⟩
  · rw [replied]
    rfl
  · rw [replied]
  · refine lost.eq_of_none sound.complete (by cases entity <;> rfl) fun row stored => ?_
    rw [Bool.eq_false_iff, ne_eq, Database.falls_iff sound.toLinked stored]
    intro fallen
    obtain ⟨target, targetStored, same, chosen⟩ := fallen.exists_deleted
    rw [absent target targetStored same] at chosen
    cases chosen

/-- When a user goes, so do the personal tags of this user, also where they are attached to the memo
of another one. That memo stays as it is, with the official tag that is attached to it. -/
theorem Connection.Reachable.deletion_owner :
    let fresh := ((toDatabase .empty).setUp .basic).state
    let write (connection : Connection) (fields : Fields) :=
      (connection.handle ⟨1, 0⟩ (.insert fields)).connection
    let users := write (write fresh (.user { name := some "a", code := some "A" }))
      (.user { name := some "b", code := some "B" })
    let memos := write (write users
        (.memo { userId := some 1, title := some "s", content := some "c" }))
      (.memo { userId := some 2, title := some "t", content := some "c" })
    let tags := write (write memos (.tag (.official "x"))) (.tag (.personal "y" 1))
    let last := write (write tags (.attachment { memoId := some 2, tagId := some 1 }))
      (.attachment { memoId := some 2, tagId := some 2 })
    let reply := last.handle ⟨2, 0⟩ (.delete .user 1)
    reply.answer = .affected 1 ∧ ∃ after, reply.connection.storage = .database after ∧
      after.rows? .user = some [.user ⟨2, "b", "B"⟩] ∧
      after.rows? .memo = some [.memo ⟨2, .filled 1, .filled 1, 2, "t", "c"⟩] ∧
      after.rows? .tag = some [.tag ⟨1, "x", true, none⟩] ∧
      after.rows? .attachment = some [.attachment ⟨1, 2, 1⟩] := by
  refine setUp_cases .basic ⟨rfl, rfl⟩ fun keepsKeys changed saved created => ?_
  intro fresh write users memos tags last reply
  have next {connection : Connection} (reachable : Reachable .basic connection) (fields : Fields) :
      Reachable .basic (write connection fields) := .written _ _ reachable rfl
  have reachable : Reachable .basic last :=
    next (next (next (next (next (next (next (next created _) _) _) _) _) _) _) _
  have deletes : (Request.delete .user 1).deletion? = some (.user, fun key => key == 1) := rfl
  obtain ⟨db, after, storage, left, answered, rows, -, -⟩ := reachable.deletion ⟨2, 0⟩ deletes
  cases storage
  exact ⟨answered, after, left, rows .user, rows .memo, rows .tag, rows .attachment⟩

end MemoStore.Store
