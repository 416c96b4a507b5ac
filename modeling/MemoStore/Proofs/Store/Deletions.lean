import MemoStore.Proofs.Store.Integrity
import MemoStore.Store.Delete

/-!
# What deletions take away

`falls` says which rows go with a deletion, in terms of the references of the rows. A
deletion removes exactly these and changes nothing else, which `delete_eq` states for
databases whose references are intact. Whatever falls takes what refers to it along, so a
deletion keeps a database sound.
-/

namespace MemoStore.Store

open MemoStore.Record (Entity)
open MemoStore.Schema (Object Variant)

namespace Database

/-- Whether a row falls when the rows of a table with the keys of `p` are deleted. -/
def falls (db : Database) (entity : Entity) (p : Int → Bool) (row : Row) : Bool :=
  match entity, row with
  | .user, .user user => p user.id
  | .user, .memo memo => p memo.userId
  | .user, .tag tag => tag.userId.any p
  | .user, .attachment attachment =>
    (db.memoTable.rows.any fun memo => memo.id == attachment.memoId && p memo.userId) ||
      db.tagTable.rows.any fun tag => tag.id == attachment.tagId && tag.userId.any p
  | .memo, .memo memo => p memo.id
  | .memo, .attachment attachment => p attachment.memoId
  | .tag, .tag tag => p tag.id
  | .tag, .attachment attachment => p attachment.tagId
  | .attachment, .attachment attachment => p attachment.id
  | _, _ => false

/-- A database that lost the rows of `f` and is otherwise as it was. -/
structure Lost (db after : Database) (f : Row → Bool) : Prop where
  users : after.userTable = db.userTable.remove fun row => f (.user row)
  memos : after.memoTable = db.memoTable.remove fun row => f (.memo row)
  tags : after.tagTable = db.tagTable.remove fun row => f (.tag row)
  attachments : after.attachmentTable = db.attachmentTable.remove fun row => f (.attachment row)
  objects : ∀ object, after.hasObject object = db.hasObject object

/-! ## Removing rows table by table -/

variable {db : Database}

/-- Removing attachments removes them from their table. -/
theorem attachmentTable_removeAttachments (p : Attachment → Bool) :
    (db.removeAttachments p).attachmentTable = db.attachmentTable.remove p := by
  cases stored : db.attachments <;> simp [removeAttachments, attachmentTable, stored, Table.remove]

/-- Removing memos removes them from their table, whatever goes with them elsewhere. -/
theorem memoTable_removeMemos (p : Memo → Bool) :
    (db.removeMemos p).memoTable = db.memoTable.remove p := by
  cases stored : db.memos <;> simp [removeMemos, memoTable, stored, Table.remove]

/-- Removing tags removes them from their table, whatever goes with them elsewhere. -/
theorem tagTable_removeTags (p : Tag → Bool) :
    (db.removeTags p).tagTable = db.tagTable.remove p := by
  cases stored : db.tags <;> simp [removeTags, tagTable, stored, Table.remove]

/-- Removing users removes them from their table, whatever goes with them elsewhere. -/
theorem userTable_removeUsers (p : User → Bool) :
    (db.removeUsers p).userTable = db.userTable.remove p := by
  cases stored : db.users <;> simp [removeUsers, userTable, stored, Table.remove]

/-- A key is among the selected users when a stored user with that key is selected. -/
theorem userAmong_eq (p : User → Bool) (id : Int) :
    db.userAmong p id = db.userTable.rows.any fun row => row.id == id && p row := by
  cases stored : db.users <;> simp [userAmong, userTable, stored]

/-- A key is among the selected memos when a stored memo with that key is selected. -/
theorem memoAmong_eq (p : Memo → Bool) (id : Int) :
    db.memoAmong p id = db.memoTable.rows.any fun row => row.id == id && p row := by
  cases stored : db.memos <;> simp [memoAmong, memoTable, stored]

/-- A key is among the selected tags when a stored tag with that key is selected. -/
theorem tagAmong_eq (p : Tag → Bool) (id : Int) :
    db.tagAmong p id = db.tagTable.rows.any fun row => row.id == id && p row := by
  cases stored : db.tags <;> simp [tagAmong, tagTable, stored]

/-- A stored user is among those whose keys satisfy `p` if its own key does. -/
theorem userAmong_of_stores {p : Int → Bool} {id : Int} (stored : db.userTable.Stores id) :
    db.userAmong (fun user => p user.id) id = p id :=
  (userAmong_eq _ id).trans (Table.any_key_of_stores stored)

/-- For a selection by key, a stored memo is selected as its key is. -/
theorem memoAmong_of_stores {p : Int → Bool} {id : Int} (stored : db.memoTable.Stores id) :
    db.memoAmong (fun memo => p memo.id) id = p id :=
  (memoAmong_eq _ id).trans (Table.any_key_of_stores stored)

/-- For a selection by key, a stored tag is selected as its key is. -/
theorem tagAmong_of_stores {p : Int → Bool} {id : Int} (stored : db.tagTable.Stores id) :
    db.tagAmong (fun tag => p tag.id) id = p id :=
  (tagAmong_eq _ id).trans (Table.any_key_of_stores stored)

/-- No object goes with a row. -/
theorem hasObject_removeRows (entity : Entity) (p : Int → Bool) (object : Object) :
    (db.removeRows entity p).hasObject object = db.hasObject object := by
  cases object with
  | table other =>
      cases entity <;> cases other <;>
        simp [removeRows, removeUsers, removeMemos, removeTags, removeAttachments, hasObject, has]
  | foreignKey key => rfl
  | trigger which =>
      cases which with
      | touchMemo =>
          cases entity <;> cases stored : db.memos <;>
            simp [removeRows, removeUsers, removeMemos, removeTags, removeAttachments, hasObject,
              touchesMemos, stored]
      | tagOwnerInsert | tagOwnerUpdate => rfl
  | tagNameIndex =>
      cases entity <;> cases stored : db.tags <;>
        simp [removeRows, removeUsers, removeMemos, removeTags, removeAttachments, hasObject,
          uniqueTagNames, stored]

/-- With its memo an attachment goes. -/
theorem attachmentTable_removeMemos (p : Memo → Bool) :
    (db.removeMemos p).attachmentTable =
      db.attachmentTable.remove fun attachment => db.memoAmong p attachment.memoId :=
  attachmentTable_removeAttachments _

/-- With its tag an attachment goes. -/
theorem attachmentTable_removeTags (p : Tag → Bool) :
    (db.removeTags p).attachmentTable =
      db.attachmentTable.remove fun attachment => db.tagAmong p attachment.tagId :=
  attachmentTable_removeAttachments _

/-- Two questions that the rows of a list answer alike. -/
private theorem any_congr_of_mem {α : Type} {rows : List α} {p q : α → Bool}
    (same : ∀ row ∈ rows, p row = q row) : rows.any p = rows.any q := by
  rw [Bool.eq_iff_iff, List.any_eq_true, List.any_eq_true]
  exact exists_congr fun row => and_congr_right fun member => by rw [same row member]

/-- The memos of removed users go, and their personal tags. -/
theorem lost_removeUsers (linked : db.Linked) (p : Int → Bool) :
    Lost db (db.removeRows .user p) (db.falls .user p) := by
  have owner : ∀ memo ∈ db.memoTable.rows,
      db.userAmong (fun user => p user.id) memo.userId = p memo.userId :=
    fun memo member => userAmong_of_stores (linked.memoOwners memo member)
  have tagOwner : ∀ tag ∈ db.tagTable.rows,
      tag.userId.any (db.userAmong fun user => p user.id) = tag.userId.any p := by
    intro tag member
    cases given : tag.userId with
    | none => rfl
    | some owner => exact userAmong_of_stores (linked.tagOwners tag member owner given)
  refine ⟨userTable_removeUsers _, ?_, ?_, ?_, hasObject_removeRows .user p⟩
  · exact (memoTable_removeMemos _).trans (Table.remove_congr owner)
  · exact (tagTable_removeTags _).trans (Table.remove_congr tagOwner)
  · -- An attachment can go with its memo, with its tag or with both.
    calc (db.removeRows .user p).attachmentTable
        = (db.attachmentTable.remove fun attachment =>
            db.memoAmong (fun memo => db.userAmong (fun user => p user.id) memo.userId)
              attachment.memoId).remove fun attachment =>
            db.tagAmong (fun tag => tag.userId.any (db.userAmong fun user => p user.id))
              attachment.tagId := by
          rw [← attachmentTable_removeMemos]
          exact attachmentTable_removeTags _
      _ = db.attachmentTable.remove fun attachment =>
            db.memoAmong (fun memo => db.userAmong (fun user => p user.id) memo.userId)
              attachment.memoId ||
            db.tagAmong (fun tag => tag.userId.any (db.userAmong fun user => p user.id))
              attachment.tagId := Table.remove_remove _
      _ = db.attachmentTable.remove fun attachment =>
            db.falls .user p (.attachment attachment) := by
          refine Table.remove_congr fun attachment _ => ?_
          rw [memoAmong_eq, tagAmong_eq, falls]
          refine congrArg₂ or (any_congr_of_mem fun memo member => ?_)
            (any_congr_of_mem fun tag member => ?_)
          · rw [owner memo member]
          · rw [tagOwner tag member]

/-- Removing rows from a database with intact references takes away what falls. -/
theorem lost_removeRows (linked : db.Linked) (entity : Entity) (p : Int → Bool) :
    Lost db (db.removeRows entity p) (db.falls entity p) := by
  cases entity with
  | user => exact lost_removeUsers linked p
  | memo =>
      refine ⟨?_, memoTable_removeMemos _, ?_, ?_, hasObject_removeRows .memo p⟩
      · exact (Table.remove_none fun _ _ => rfl).symm
      · exact (Table.remove_none fun _ _ => rfl).symm
      · refine (attachmentTable_removeMemos _).trans
          (Table.remove_congr fun attachment member => ?_)
        exact memoAmong_of_stores (linked.attachedMemos attachment member)
  | tag =>
      refine ⟨?_, ?_, tagTable_removeTags _, ?_, hasObject_removeRows .tag p⟩
      · exact (Table.remove_none fun _ _ => rfl).symm
      · exact (Table.remove_none fun _ _ => rfl).symm
      · refine (attachmentTable_removeTags _).trans (Table.remove_congr fun attachment member => ?_)
        exact tagAmong_of_stores (linked.attachedTags attachment member)
  | attachment =>
      refine ⟨?_, ?_, ?_, attachmentTable_removeAttachments _, hasObject_removeRows .attachment p⟩
      · exact (Table.remove_none fun _ _ => rfl).symm
      · exact (Table.remove_none fun _ _ => rfl).symm
      · exact (Table.remove_none fun _ _ => rfl).symm

/-- A deletion from a sound database removes what falls, and counts the rows of the table
itself. -/
theorem delete_eq {variant : Variant} (sound : Sound variant db) (entity : Entity)
    (p : Int → Bool) :
    db.delete entity p =
      .ok (db.removeRows entity p, ((db.rows? entity).getD []).countP fun row => p row.key) := by
  have all := sound.requireReferenced
  have table : db.requireTable entity = .ok () := by
    rw [requireTable, if_pos (sound.complete.tables entity)]
  have cascade : db.requireCascade entity = .ok () := by
    unfold requireCascade
    simp only [all, ite_self]
  unfold delete
  rw [table, all, cascade]
  rfl

/-! ## What deletions keep -/

/-- A choice of rows that takes everything along that refers to a chosen row. -/
structure Closed (db : Database) (f : Row → Bool) : Prop where
  memos : ∀ memo ∈ db.memoTable.rows, ∀ user ∈ db.userTable.rows, user.id = memo.userId →
    f (.user user) = true → f (.memo memo) = true
  tags : ∀ tag ∈ db.tagTable.rows, ∀ user ∈ db.userTable.rows, tag.userId = some user.id →
    f (.user user) = true → f (.tag tag) = true
  attachedMemos : ∀ attachment ∈ db.attachmentTable.rows, ∀ memo ∈ db.memoTable.rows,
    memo.id = attachment.memoId → f (.memo memo) = true → f (.attachment attachment) = true
  attachedTags : ∀ attachment ∈ db.attachmentTable.rows, ∀ tag ∈ db.tagTable.rows,
    tag.id = attachment.tagId → f (.tag tag) = true → f (.attachment attachment) = true

/-- What falls takes along what refers to it. -/
theorem closed_falls (entity : Entity) (p : Int → Bool) : Closed db (db.falls entity p) where
  memos := by
    intro memo _ user _ refers fallen
    cases entity with
    | user =>
        simp only [falls] at fallen ⊢
        rw [← refers]
        exact fallen
    | memo | tag | attachment => cases fallen
  tags := by
    intro tag _ user _ refers fallen
    cases entity with
    | user =>
        simp only [falls] at fallen ⊢
        rw [refers]
        exact fallen
    | memo | tag | attachment => cases fallen
  attachedMemos := by
    intro attachment _ memo member refers fallen
    cases entity with
    | user =>
        simp only [falls, Bool.or_eq_true, List.any_eq_true] at fallen ⊢
        exact .inl ⟨memo, member, by simp [refers, fallen]⟩
    | memo =>
        simp only [falls] at fallen ⊢
        rw [← refers]
        exact fallen
    | tag | attachment => cases fallen
  attachedTags := by
    intro attachment _ tag member refers fallen
    cases entity with
    | user =>
        simp only [falls, Bool.or_eq_true, List.any_eq_true] at fallen ⊢
        exact .inr ⟨tag, member, by simp [refers, fallen]⟩
    | tag =>
        simp only [falls] at fallen ⊢
        rw [← refers]
        exact fallen
    | memo | attachment => cases fallen

/-- What a kept row refers to is kept, because it would have taken the row along. -/
private theorem not_fallen {fallen taken : Bool} (kept : taken = false)
    (takes : fallen = true → taken = true) : fallen = false := by
  rw [Bool.eq_false_iff]
  intro falling
  rw [takes falling] at kept
  cases kept

/-- A database that loses a closed choice of rows stays sound. -/
theorem Sound.lost {variant : Variant} {after : Database} {f : Row → Bool}
    (sound : Sound variant db) (closed : Closed db f) (lost : Lost db after f) :
    Sound variant after := by
  have index : after.uniqueTagNames = db.uniqueTagNames := lost.objects .tagNameIndex
  refine
    { memoOwners := ?_, tagOwners := ?_, attachedMemos := ?_, attachedTags := ?_,
      complete := sound.complete.mono (fun entity => ?_) ?_
      index := index.trans sound.index
      userKeys := lost.users ▸ sound.userKeys.remove
      memoKeys := lost.memos ▸ sound.memoKeys.remove
      tagKeys := lost.tags ▸ sound.tagKeys.remove
      attachmentKeys := lost.attachments ▸ sound.attachmentKeys.remove
      codes := lost.users ▸ Table.pairwise_remove sound.codes
      tagRule := fun tag member => sound.tagRule tag (Table.mem_remove.mp (lost.tags ▸ member)).1
      tagNames := fun unique =>
        lost.tags ▸ Table.pairwise_remove (sound.tagNames (index ▸ unique)) }
  · intro memo member
    obtain ⟨before, kept⟩ := Table.mem_remove.mp (lost.memos ▸ member)
    obtain ⟨user, stored, owner⟩ := sound.memoOwners memo before
    refine ⟨user, lost.users ▸ Table.mem_remove.mpr ⟨stored, ?_⟩, owner⟩
    exact not_fallen kept (closed.memos memo before user stored owner)
  · intro tag member owner given
    obtain ⟨before, kept⟩ := Table.mem_remove.mp (lost.tags ▸ member)
    obtain ⟨user, stored, rfl⟩ := sound.tagOwners tag before owner given
    refine ⟨user, lost.users ▸ Table.mem_remove.mpr ⟨stored, ?_⟩, rfl⟩
    exact not_fallen kept (closed.tags tag before user stored given)
  · intro attachment member
    obtain ⟨before, kept⟩ := Table.mem_remove.mp (lost.attachments ▸ member)
    obtain ⟨memo, stored, attached⟩ := sound.attachedMemos attachment before
    refine ⟨memo, lost.memos ▸ Table.mem_remove.mpr ⟨stored, ?_⟩, attached⟩
    exact not_fallen kept (closed.attachedMemos attachment before memo stored attached)
  · intro attachment member
    obtain ⟨before, kept⟩ := Table.mem_remove.mp (lost.attachments ▸ member)
    obtain ⟨tag, stored, attached⟩ := sound.attachedTags attachment before
    refine ⟨tag, lost.tags ▸ Table.mem_remove.mpr ⟨stored, ?_⟩, attached⟩
    exact not_fallen kept (closed.attachedTags attachment before tag stored attached)
  · exact (lost.objects (.table entity)).trans
  · exact (lost.objects (.trigger .touchMemo)).trans

/-- A deletion keeps a database sound. -/
theorem Sound.delete {variant : Variant} {after : Database} (sound : Sound variant db)
    {entity : Entity} {p : Int → Bool} {count : Nat}
    (deleted : db.delete entity p = .ok (after, count)) : Sound variant after := by
  rw [delete_eq sound] at deleted
  cases deleted
  exact sound.lost (closed_falls entity p) (lost_removeRows sound.toLinked entity p)

end Database

end MemoStore.Store
