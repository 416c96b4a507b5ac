import MemoStore.Proofs.Store.Breaches

/-!
# Decided statements

In a sound database whose keys are bounded, every insertion is decided by the first rule that
the new row breaks (`insert_decided`), and every update of a stored row by the first rule that
the changed row breaks (`update_decided`). The engine demands less of an update than the rules
say: it looks at the columns that are set only, and what the others name is stored already.
-/

namespace MemoStore.Store

open MemoStore.Record (Fields UserFields MemoFields TagFields AttachmentFields)
open MemoStore.Schema (Variant)
open MemoStore.Time (Instant)

namespace Database

variable {variant : Variant} {db : Database} {now : Instant}

/-- Whether the first broken rule decides a statement that is to store a row. -/
def Decides {α : Type} (db : Database) (variant : Variant) (trial : Trial)
    (result : Except Refusal (Database × α)) (accepts : α → Prop) : Prop :=
  Decided (trial.Breaks variant db) trial.refusal result
    (fun result => accepts result.2 ∧ result.1.Stored trial.row) Breach.order

/-! ## Insertions -/

/-- The insertion of a user is decided. -/
theorem insertUser_decided (sound : db.Sound variant) (bounded : db.Bounded)
    (fields : UserFields) :
    db.Decides variant (.insertion db now (.user fields)) (db.insertUser fields)
      fun row => .user row = (Trial.insertion db now (.user fields)).row := by
  have stored := users_of_has (sound.complete.tables .user)
  simp only [insertUser, stored]
  refine .required (fun absent => Trial.lacks ?_) fun name named => ?_
  · simp [Trial.insertion, Trial.lack, absent]
  refine .required (fun absent => Trial.lacks ?_) fun code coded => ?_
  · simp [Trial.insertion, Trial.lack, absent, named]
  have row : (Trial.insertion db now (.user fields)).row =
      .user ⟨fields.id.getD db.userTable.nextKey, name, code⟩ := by
    simp [Trial.insertion, named, coded]
  refine .pass (Trial.keeps_value ?_) (.pass (by simp [Trial.Breaks, row]) ?_)
  · simp [Trial.insertion, Trial.lack, named, coded]
  refine .demand (Trial.keeps_key bounded.users fun key => storesKey_user) fun new => ?_
  rw [Table.any_other (Table.not_stores_of_holds new)]
  refine .demand (Trial.keeps_code row) fun _ => ?_
  refine .pass (by simp [Trial.Breaks, row]) (.pass ?_ ?_)
  · simp [Trial.Breaks, row, Row.references]
  · exact ⟨_, rfl, row.symm, by simp [row, stored_user, userTable, Table.mem_add]⟩

/-- The insertion of a memo is decided. -/
theorem insertMemo_decided (sound : db.Sound variant) (bounded : db.Bounded)
    (fields : MemoFields) :
    db.Decides variant (.insertion db now (.memo fields)) (db.insertMemo now fields)
      fun row => .memo row = (Trial.insertion db now (.memo fields)).row := by
  obtain ⟨memos, stored, table⟩ := memos_of_has (sound.complete.tables .memo)
  simp only [insertMemo, stored, sound.requireReferenced]
  refine .required (fun absent => Trial.lacks ?_) fun owner owned => ?_
  · simp [Trial.insertion, Trial.lack, absent]
  refine .required (fun absent => Trial.lacks ?_) fun title titled => ?_
  · simp [Trial.insertion, Trial.lack, absent, owned]
  refine .required (fun absent => Trial.lacks ?_) fun content written => ?_
  · simp [Trial.insertion, Trial.lack, absent, owned, titled]
  have row : (Trial.insertion db now (.memo fields)).row = .memo {
      id := fields.id.getD memos.nextKey
      createdAt := (fields.createdAt.map .given).getD (.ofClock now)
      updatedAt := (fields.updatedAt.map .given).getD (.ofClock now)
      userId := owner
      title := title
      content := content } := by
    simp [Trial.insertion, owned, titled, written, table]
  refine .pass (Trial.keeps_value ?_) (.pass (by simp [Trial.Breaks, row]) ?_)
  · simp [Trial.insertion, Trial.lack, owned, titled, written]
  refine .demand (Trial.keeps_key (table ▸ bounded.memos) fun key => ?_) fun _ => ?_
  · exact table ▸ storesKey_memo
  refine .pass (by simp [Trial.Breaks, row]) (.pass (by simp [Trial.Breaks, row]) ?_)
  refine .demand (Trial.keeps_memoReference row) fun _ => ?_
  exact ⟨_, rfl, row.symm, by simp [row, stored_memo, memoTable, Table.mem_add]⟩

/-- The insertion of a tag is decided. -/
theorem insertTag_decided (sound : db.Sound variant) (bounded : db.Bounded)
    (fields : TagFields) :
    db.Decides variant (.insertion db now (.tag fields)) (db.insertTag fields)
      fun row => .tag row = (Trial.insertion db now (.tag fields)).row := by
  obtain ⟨tags, stored, table⟩ := tags_of_has (sound.complete.tables .tag)
  simp only [insertTag, stored, sound.requireReferenced]
  refine .required (fun absent => Trial.lacks ?_) fun name named => ?_
  · simp [Trial.insertion, Trial.lack, absent]
  have row : (Trial.insertion db now (.tag fields)).row = .tag ⟨fields.id.getD tags.nextKey, name,
      fields.isOfficial.getD false, fields.userId.join⟩ := by
    simp [Trial.insertion, named, table]
  refine .pass (Trial.keeps_value ?_) ?_
  · simp [Trial.insertion, Trial.lack, named]
  refine .demand (Trial.keeps_owner row) fun _ => ?_
  refine .demand (Trial.keeps_key (table ▸ bounded.tags) fun key => ?_) fun new => ?_
  · exact table ▸ storesKey_tag
  refine .pass (by simp [Trial.Breaks, row]) ?_
  rw [Table.any_other (Table.not_stores_of_holds new)]
  have named := Trial.keeps_name row sound.index
  rw [uniqueTagNames_of_stored stored, table] at named
  refine .demand named fun _ => .demand (Trial.keeps_tagReference row) fun _ => ?_
  exact ⟨_, rfl, row.symm, by simp [row, stored_tag, tagTable, Table.mem_add]⟩

/-- The insertion of an attachment is decided. -/
theorem insertAttachment_decided (sound : db.Sound variant) (bounded : db.Bounded)
    (fields : AttachmentFields) :
    db.Decides variant (.insertion db now (.attachment fields)) (db.insertAttachment fields)
      fun row => .attachment row = (Trial.insertion db now (.attachment fields)).row := by
  have stored := attachments_of_has (sound.complete.tables .attachment)
  simp only [insertAttachment, stored, sound.requireReferenced]
  refine .required (fun absent => Trial.lacks ?_) fun memo attached => ?_
  · simp [Trial.insertion, Trial.lack, absent]
  refine .required (fun absent => Trial.lacks ?_) fun tag tagged => ?_
  · simp [Trial.insertion, Trial.lack, absent, attached]
  have row : (Trial.insertion db now (.attachment fields)).row =
      .attachment ⟨fields.id.getD db.attachmentTable.nextKey, memo, tag⟩ := by
    simp [Trial.insertion, attached, tagged]
  refine .pass (Trial.keeps_value ?_) (.pass (by simp [Trial.Breaks, row]) ?_)
  · simp [Trial.insertion, Trial.lack, attached, tagged]
  refine .demand (Trial.keeps_key bounded.attachments fun key => storesKey_attachment)
    fun _ => ?_
  refine .pass (by simp [Trial.Breaks, row]) (.pass (by simp [Trial.Breaks, row]) ?_)
  refine .demand (Trial.keeps_attachmentReferences row) fun _ => ?_
  exact ⟨_, rfl, row.symm, by simp [row, stored_attachment, attachmentTable, Table.mem_add]⟩

/-- Every insertion is decided. -/
theorem insert_decided (sound : db.Sound variant) (bounded : db.Bounded) (fields : Fields) :
    db.Decides variant (.insertion db now fields) (db.insert now fields)
      fun row => row = (Trial.insertion db now fields).row := by
  cases fields with
  | user fields => exact (insertUser_decided sound bounded fields).map fun _ => id
  | memo fields => exact (insertMemo_decided sound bounded fields).map fun _ => id
  | tag fields => exact (insertTag_decided sound bounded fields).map fun _ => id
  | attachment fields => exact (insertAttachment_decided sound bounded fields).map fun _ => id

/-! ## Updates -/

/-- What holds of a value in advance holds of every value that takes its place, as far as one
is given. -/
theorem all_eq_getD {α : Type} {p : α → Bool} {given : Option α} {value : α}
    (holds : p value = true) : given.all p = p (given.getD value) := by
  cases given <;> simp [holds]

/-- The update of a stored user is decided. -/
theorem updateUser_decided (sound : db.Sound variant) {old : User}
    (oldStored : old ∈ db.userTable.rows) (fields : UserFields) :
    db.Decides variant (.change now (.user old) (.user fields)) (db.updateUser old.id fields)
      fun count => count = 1 := by
  have stored := users_of_has (sound.complete.tables .user)
  have found : db.userTable.find? old.id = some old := sound.userKeys.find? oldStored
  have row : (Trial.change now (.user old) (.user fields)).row = .user (old.set fields) := rfl
  simp only [updateUser, stored, found]
  refine .pass (Trial.keeps_value rfl) (.pass (by simp [Trial.Breaks, row]) (.pass ?_ ?_))
  · simp [Trial.Breaks, Trial.change]
  refine .demand (Trial.keeps_code row) fun _ => ?_
  refine .pass (by simp [Trial.Breaks, row]) (.pass ?_ ?_)
  · simp [Trial.Breaks, row, Row.references]
  · have replaced : old.set fields ∈ (db.userTable.replace (old.set fields)).rows :=
      Table.mem_replace_self oldStored rfl
    exact ⟨_, rfl, rfl, by simpa [row, stored_user, userTable] using replaced⟩

/-- The update of a stored memo is decided. -/
theorem updateMemo_decided (sound : db.Sound variant) {old : Memo}
    (oldStored : old ∈ db.memoTable.rows) (fields : MemoFields) :
    db.Decides variant (.change now (.memo old) (.memo fields)) (db.updateMemo now old.id fields)
      fun count => count = 1 := by
  obtain ⟨memos, stored, table⟩ := memos_of_has (sound.complete.tables .memo)
  have found : memos.find? old.id = some old := table ▸ sound.memoKeys.find? oldStored
  have touches : memos.touches = true := by
    simpa [touchesMemos, stored] using sound.complete.trigger
  have row : (Trial.change now (.memo old) (.memo fields)).row =
      .memo (touched now old (old.set fields)) := rfl
  have id : (touched now old (old.set fields)).id = old.id := touched_keys.1
  have owner : (touched now old (old.set fields)).userId = fields.userId.getD old.userId :=
    touched_keys.2
  have owned : db.holdsUser old.userId = true :=
    holdsUser_iff.mpr (sound.memoOwners old oldStored)
  simp only [updateMemo, stored, sound.requireReferenced, found, touches, if_true]
  refine .pass (Trial.keeps_value rfl) (.pass (by simp [Trial.Breaks, row]) (.pass ?_ ?_))
  · simp [Trial.Breaks, Trial.change]
  refine .pass (by simp [Trial.Breaks, row]) (.pass (by simp [Trial.Breaks, row]) ?_)
  rw [all_eq_getD owned, ← owner]
  refine .demand (Trial.keeps_memoReference row) fun _ => ?_
  have replaced : touched now old (old.set fields) ∈
      (db.memoTable.replace (touched now old (old.set fields))).rows :=
    Table.mem_replace_self oldStored id.symm
  exact ⟨_, rfl, rfl, by simpa [row, stored_memo, memoTable, stored] using replaced⟩

/-- The update of a stored tag is decided. -/
theorem updateTag_decided (sound : db.Sound variant) {old : Tag}
    (oldStored : old ∈ db.tagTable.rows) (fields : TagFields) :
    db.Decides variant (.change now (.tag old) (.tag fields)) (db.updateTag old.id fields)
      fun count => count = 1 := by
  obtain ⟨tags, stored, table⟩ := tags_of_has (sound.complete.tables .tag)
  have found : tags.find? old.id = some old := table ▸ sound.tagKeys.find? oldStored
  have row : (Trial.change now (.tag old) (.tag fields)).row = .tag (old.set fields) := rfl
  have owned : old.userId.all db.holdsUser = true := by
    simpa only [Option.all_eq_true, holdsUser_iff] using sound.tagOwners old oldStored
  simp only [updateTag, stored, sound.requireReferenced, found]
  refine .pass (Trial.keeps_value rfl) (.demand (Trial.keeps_owner row) fun _ => ?_)
  refine .pass (by simp [Trial.Breaks, Trial.change]) (.pass (by simp [Trial.Breaks, row]) ?_)
  have named := Trial.keeps_name row sound.index
  rw [uniqueTagNames_of_stored stored, table] at named
  refine .demand named fun _ => ?_
  have linked : fields.userId.join.all db.holdsUser = (old.set fields).userId.all db.holdsUser := by
    cases given : fields.userId <;> simp [Tag.set, given, owned]
  rw [linked]
  refine .demand (Trial.keeps_tagReference row) fun _ => ?_
  have replaced : old.set fields ∈ (db.tagTable.replace (old.set fields)).rows :=
    Table.mem_replace_self oldStored rfl
  exact ⟨_, rfl, rfl, by simpa [row, stored_tag, tagTable, stored] using replaced⟩

/-- The update of a stored attachment is decided. -/
theorem updateAttachment_decided (sound : db.Sound variant) {old : Attachment}
    (oldStored : old ∈ db.attachmentTable.rows) (fields : AttachmentFields) :
    db.Decides variant (.change now (.attachment old) (.attachment fields))
      (db.updateAttachment old.id fields) fun count => count = 1 := by
  have stored := attachments_of_has (sound.complete.tables .attachment)
  have found : db.attachmentTable.find? old.id = some old := sound.attachmentKeys.find? oldStored
  have row : (Trial.change now (.attachment old) (.attachment fields)).row =
      .attachment (old.set fields) := rfl
  have memo : db.holdsMemo old.memoId = true :=
    holdsMemo_iff.mpr (sound.attachedMemos old oldStored)
  have tag : db.holdsTag old.tagId = true :=
    holdsTag_iff.mpr (sound.attachedTags old oldStored)
  simp only [updateAttachment, stored, sound.requireReferenced, found]
  refine .pass (Trial.keeps_value rfl) (.pass (by simp [Trial.Breaks, row]) (.pass ?_ ?_))
  · simp [Trial.Breaks, Trial.change]
  refine .pass (by simp [Trial.Breaks, row]) (.pass (by simp [Trial.Breaks, row]) ?_)
  rw [all_eq_getD memo, all_eq_getD tag]
  refine .demand (Trial.keeps_attachmentReferences row) fun _ => ?_
  have replaced : old.set fields ∈ (db.attachmentTable.replace (old.set fields)).rows :=
    Table.mem_replace_self oldStored rfl
  exact ⟨_, rfl, rfl, by simpa [row, stored_attachment, attachmentTable] using replaced⟩

/-- Every update of a stored row is decided. -/
theorem update_decided (sound : db.Sound variant) {old : Row} (oldStored : db.Stored old)
    {fields : Fields} (same : old.entity = fields.entity) :
    db.Decides variant (.change now old fields) (db.update now old.key fields)
      fun count => count = 1 := by
  cases old with
  | user old =>
      cases fields with
      | user fields => exact updateUser_decided sound (stored_user.mp oldStored) fields
      | memo | tag | attachment => cases same
  | memo old =>
      cases fields with
      | memo fields => exact updateMemo_decided sound (stored_memo.mp oldStored) fields
      | user | tag | attachment => cases same
  | tag old =>
      cases fields with
      | tag fields => exact updateTag_decided sound (stored_tag.mp oldStored) fields
      | user | memo | attachment => cases same
  | attachment old =>
      cases fields with
      | attachment fields =>
          exact updateAttachment_decided sound (stored_attachment.mp oldStored) fields
      | user | memo | tag => cases same

end Database

end MemoStore.Store
