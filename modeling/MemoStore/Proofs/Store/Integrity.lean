import MemoStore.Proofs.Store.Changes
import MemoStore.Proofs.Store.Completion

/-!
# Integrity of the rows

`Sound` is what holds of a database with a complete schema, whatever has been written to
it: keys and codes are distinct, every reference leads to a stored row, and tags obey the
owner rule. Insertions and updates keep a database sound. Each of them changes one table,
so what must be shown is collected for each table first.
-/

namespace MemoStore.Store

open MemoStore.Record (Entity Fields UserFields MemoFields TagFields AttachmentFields)
open MemoStore.Schema (Variant)
open MemoStore.Time (Instant)

namespace Database

/-- Every reference leads to a stored row. -/
structure Linked (db : Database) : Prop where
  memoOwners : ∀ memo ∈ db.memoTable.rows, db.userTable.Stores memo.userId
  tagOwners : ∀ tag ∈ db.tagTable.rows, ∀ owner, tag.userId = some owner →
    db.userTable.Stores owner
  attachedMemos : ∀ attachment ∈ db.attachmentTable.rows, db.memoTable.Stores attachment.memoId
  attachedTags : ∀ attachment ∈ db.attachmentTable.rows, db.tagTable.Stores attachment.tagId

/-- A database of a variant whose rows obey every rule of the schema. -/
structure Sound (variant : Variant) (db : Database) : Prop extends Linked db where
  complete : db.Complete
  index : db.uniqueTagNames = variant.hasTagNameIndex
  userKeys : db.userTable.DistinctKeys
  memoKeys : db.memoTable.DistinctKeys
  tagKeys : db.tagTable.DistinctKeys
  attachmentKeys : db.attachmentTable.DistinctKeys
  codes : db.userTable.rows.Pairwise fun a b => a.code ≠ b.code
  tagRule : ∀ tag ∈ db.tagTable.rows, ownerRule tag.isOfficial tag.userId = true
  tagNames : db.uniqueTagNames = true →
    db.tagTable.rows.Pairwise fun a b => sameName a b = false

/-- The users of a database that has a table of them. -/
theorem userTable_of_stored {db : Database} {users : Table User} (stored : db.users = some users) :
    db.userTable = users := by
  simp [userTable, stored]

/-- The memos of a database that has a table of them, without the trigger. -/
theorem memoTable_of_stored {db : Database} {memos : MemoTable} (stored : db.memos = some memos) :
    db.memoTable = memos.toTable := by
  simp [memoTable, stored]

/-- The tags of a database that has a table of them, without the index. -/
theorem tagTable_of_stored {db : Database} {tags : TagTable} (stored : db.tags = some tags) :
    db.tagTable = tags.toTable := by
  simp [tagTable, stored]

/-- The attachments of a database that has a table of them. -/
theorem attachmentTable_of_stored {db : Database} {attachments : Table Attachment}
    (stored : db.attachments = some attachments) : db.attachmentTable = attachments := by
  simp [attachmentTable, stored]

/-- A table of users that is there holds the users. -/
theorem users_of_has {db : Database} (present : db.has .user = true) :
    db.users = some db.userTable := by
  obtain ⟨users, stored⟩ := Option.isSome_iff_exists.mp present
  rw [stored, userTable_of_stored stored]

/-- A table of memos that is there holds the memos. -/
theorem memos_of_has {db : Database} (present : db.has .memo = true) :
    ∃ memos, db.memos = some memos ∧ db.memoTable = memos.toTable := by
  obtain ⟨memos, stored⟩ := Option.isSome_iff_exists.mp present
  exact ⟨memos, stored, memoTable_of_stored stored⟩

/-- A table of tags that is there holds the tags. -/
theorem tags_of_has {db : Database} (present : db.has .tag = true) :
    ∃ tags, db.tags = some tags ∧ db.tagTable = tags.toTable := by
  obtain ⟨tags, stored⟩ := Option.isSome_iff_exists.mp present
  exact ⟨tags, stored, tagTable_of_stored stored⟩

/-- A table of attachments that is there holds the attachments. -/
theorem attachments_of_has {db : Database} (present : db.has .attachment = true) :
    db.attachments = some db.attachmentTable := by
  obtain ⟨attachments, stored⟩ := Option.isSome_iff_exists.mp present
  rw [stored, attachmentTable_of_stored stored]

/-- The index on tag names belongs to the table of tags. -/
theorem uniqueTagNames_of_stored {db : Database} {tags : TagTable} (stored : db.tags = some tags) :
    db.uniqueTagNames = tags.uniqueNames := by
  simp [uniqueTagNames, stored]

/-- It does not matter which of two tags had the name first. -/
theorem sameName_comm (a b : Tag) : sameName a b = sameName b a := by
  rw [Bool.eq_iff_iff, sameName_iff, sameName_iff]
  constructor
  · rintro ⟨name, flag, owner, owned⟩
    exact ⟨name.symm, flag.symm, owner.symm, owner ▸ owned⟩
  · rintro ⟨name, flag, owner, owned⟩
    exact ⟨name.symm, flag.symm, owner.symm, owner ▸ owned⟩

/-- A database without rows is sound once everything is there. -/
theorem sound_of_empty {db : Database} {variant : Variant} (contents : SameContents {} db)
    (complete : db.Complete) (index : db.uniqueTagNames = variant.hasTagNameIndex) :
    Sound variant db := by
  obtain ⟨users, memos, tags, attachments⟩ := contents
  have noUsers : db.userTable.rows = [] := by rw [users]; rfl
  have noMemos : db.memoTable.rows = [] := by rw [memos]; rfl
  have noTags : db.tagTable.rows = [] := by rw [tags]; rfl
  have noAttachments : db.attachmentTable.rows = [] := by rw [attachments]; rfl
  exact {
    memoOwners := by simp [noMemos]
    tagOwners := by simp [noTags]
    attachedMemos := by simp [noAttachments]
    attachedTags := by simp [noAttachments]
    complete := complete
    index := index
    userKeys := by simp [Table.DistinctKeys, noUsers]
    memoKeys := by simp [Table.DistinctKeys, noMemos]
    tagKeys := by simp [Table.DistinctKeys, noTags]
    attachmentKeys := by simp [Table.DistinctKeys, noAttachments]
    codes := by simp [noUsers]
    tagRule := by simp [noTags]
    tagNames := by simp [noTags] }

namespace Sound

variable {variant : Variant} {db : Database}

/-- No referenced table of a sound database is missing. -/
theorem requireReferenced (sound : Sound variant db) (entities : List Entity) :
    db.requireReferenced entities = .ok () := by
  have none : entities.find? (fun entity => !db.has entity) = none := by
    simp [sound.complete.tables]
  rw [Database.requireReferenced, none]

/-! ## Changing one table -/

/-- The table of users may change if it keeps its keys and has distinct codes. -/
theorem withUsers (sound : Sound variant db) {users : Table User}
    (keeps : ∀ key, db.userTable.Stores key → users.Stores key) (keys : users.DistinctKeys)
    (codes : users.rows.Pairwise fun a b => a.code ≠ b.code) :
    Sound variant { db with users := some users } where
  memoOwners memo member := keeps _ (sound.memoOwners memo member)
  tagOwners tag member owner given := keeps _ (sound.tagOwners tag member owner given)
  attachedMemos := sound.attachedMemos
  attachedTags := sound.attachedTags
  complete := sound.complete.mono (by rintro ⟨⟩ <;> simp [has]) id
  index := sound.index
  userKeys := keys
  memoKeys := sound.memoKeys
  tagKeys := sound.tagKeys
  attachmentKeys := sound.attachmentKeys
  codes := codes
  tagRule := sound.tagRule
  tagNames := sound.tagNames

/-- The table of memos may change if it keeps its keys and every memo has a stored user. -/
theorem withMemos (sound : Sound variant db) {memos : MemoTable} (stored : db.memos = some memos)
    {table : Table Memo} (keeps : ∀ key, memos.Stores key → table.Stores key)
    (keys : table.DistinctKeys)
    (owners : ∀ memo ∈ table.rows, db.userTable.Stores memo.userId) :
    Sound variant { db with memos := some { memos with toTable := table } } where
  memoOwners := owners
  tagOwners := sound.tagOwners
  attachedMemos attachment member := by
    have before := sound.attachedMemos attachment member
    rw [memoTable_of_stored stored] at before
    exact keeps _ before
  attachedTags := sound.attachedTags
  complete := sound.complete.mono (by rintro ⟨⟩ <;> simp [has]) (by simp [touchesMemos, stored])
  index := sound.index
  userKeys := sound.userKeys
  memoKeys := keys
  tagKeys := sound.tagKeys
  attachmentKeys := sound.attachmentKeys
  codes := sound.codes
  tagRule := sound.tagRule
  tagNames := sound.tagNames

/-- The table of tags may change if it keeps its keys, the owner rule and the uniqueness of
names. -/
theorem withTags (sound : Sound variant db) {tags : TagTable} (stored : db.tags = some tags)
    {table : Table Tag} (keeps : ∀ key, tags.Stores key → table.Stores key)
    (keys : table.DistinctKeys)
    (owners : ∀ tag ∈ table.rows, ∀ owner, tag.userId = some owner → db.userTable.Stores owner)
    (rule : ∀ tag ∈ table.rows, ownerRule tag.isOfficial tag.userId = true)
    (names : tags.uniqueNames = true → table.rows.Pairwise fun a b => sameName a b = false) :
    Sound variant { db with tags := some { tags with toTable := table } } where
  memoOwners := sound.memoOwners
  tagOwners := owners
  attachedMemos := sound.attachedMemos
  attachedTags attachment member := by
    have before := sound.attachedTags attachment member
    rw [tagTable_of_stored stored] at before
    exact keeps _ before
  complete := sound.complete.mono (by rintro ⟨⟩ <;> simp [has]) id
  index := (uniqueTagNames_of_stored stored).symm.trans sound.index
  userKeys := sound.userKeys
  memoKeys := sound.memoKeys
  tagKeys := keys
  attachmentKeys := sound.attachmentKeys
  codes := sound.codes
  tagRule := rule
  tagNames := names

/-- The table of attachments may change if every attachment has a stored memo and tag. -/
theorem withAttachments (sound : Sound variant db) {attachments : Table Attachment}
    (keys : attachments.DistinctKeys)
    (memos : ∀ attachment ∈ attachments.rows, db.memoTable.Stores attachment.memoId)
    (tags : ∀ attachment ∈ attachments.rows, db.tagTable.Stores attachment.tagId) :
    Sound variant { db with attachments := some attachments } where
  memoOwners := sound.memoOwners
  tagOwners := sound.tagOwners
  attachedMemos := memos
  attachedTags := tags
  complete := sound.complete.mono (by rintro ⟨⟩ <;> simp [has]) id
  index := sound.index
  userKeys := sound.userKeys
  memoKeys := sound.memoKeys
  tagKeys := sound.tagKeys
  attachmentKeys := keys
  codes := sound.codes
  tagRule := sound.tagRule
  tagNames := sound.tagNames

/-! ## Insertions and updates -/

/-- A new user has a new key and a new code. -/
theorem insertUser (sound : Sound variant db) {fields : UserFields} {after : Database}
    {row : User} (inserted : db.insertUser fields = .ok (after, row)) : Sound variant after := by
  obtain ⟨users, stored, rfl, newKey, newCode⟩ := insertUser_ok inserted
  have table := userTable_of_stored stored
  refine sound.withUsers (fun key => ?_) ?_ ?_
  · rw [table]
    exact Table.Stores.add
  · exact (table ▸ sound.userKeys).add newKey
  · exact Table.pairwise_add (table ▸ sound.codes) newCode

/-- A new memo has a new key and a stored owner. -/
theorem insertMemo (sound : Sound variant db) {now : Instant} {fields : MemoFields}
    {after : Database} {row : Memo} (inserted : db.insertMemo now fields = .ok (after, row)) :
    Sound variant after := by
  obtain ⟨memos, stored, rfl, newKey, owned⟩ := insertMemo_ok inserted
  have table := memoTable_of_stored stored
  refine sound.withMemos stored (fun key => Table.Stores.add) ?_ fun memo member => ?_
  · exact (table ▸ sound.memoKeys).add newKey
  · rcases Table.mem_add.mp member with before | rfl
    · exact sound.memoOwners memo (table ▸ before)
    · exact owned

/-- A new tag has a new key, obeys the owner rule, has a stored owner if it has one, and a new name
where the index is there. -/
theorem insertTag (sound : Sound variant db) {fields : TagFields} {after : Database} {row : Tag}
    (inserted : db.insertTag fields = .ok (after, row)) : Sound variant after := by
  obtain ⟨tags, stored, rfl, newKey, rule, newName, owned⟩ := insertTag_ok inserted
  have table := tagTable_of_stored stored
  refine sound.withTags stored (fun key => Table.Stores.add) ?_ ?_ ?_ ?_
  · exact (table ▸ sound.tagKeys).add newKey
  · intro tag member
    rcases Table.mem_add.mp member with before | rfl
    · exact sound.tagOwners tag (table ▸ before)
    · exact owned
  · intro tag member
    rcases Table.mem_add.mp member with before | rfl
    · exact sound.tagRule tag (table ▸ before)
    · exact rule
  · intro unique
    have names := sound.tagNames ((uniqueTagNames_of_stored stored).trans unique)
    refine Table.pairwise_add (table ▸ names) fun other member => ?_
    rw [sameName_comm]
    exact newName unique other member

/-- A new attachment has a new key, a stored memo and a stored tag. -/
theorem insertAttachment (sound : Sound variant db) {fields : AttachmentFields}
    {after : Database} {row : Attachment}
    (inserted : db.insertAttachment fields = .ok (after, row)) : Sound variant after := by
  obtain ⟨attachments, stored, rfl, newKey, memoStored, tagStored⟩ := insertAttachment_ok inserted
  have table := attachmentTable_of_stored stored
  refine sound.withAttachments ?_ (fun attachment member => ?_) fun attachment member => ?_
  · exact (table ▸ sound.attachmentKeys).add newKey
  · rcases Table.mem_add.mp member with before | rfl
    · exact sound.attachedMemos attachment (table ▸ before)
    · exact memoStored
  · rcases Table.mem_add.mp member with before | rfl
    · exact sound.attachedTags attachment (table ▸ before)
    · exact tagStored

/-- An insertion keeps a database sound. -/
theorem insert (sound : Sound variant db) {now : Instant} {fields : Fields} {after : Database}
    {row : Row} (inserted : db.insert now fields = .ok (after, row)) : Sound variant after := by
  cases fields with
  | user fields =>
      obtain ⟨⟨_, _⟩, done, same⟩ := map_ok.mp inserted
      cases same
      exact sound.insertUser done
  | memo fields =>
      obtain ⟨⟨_, _⟩, done, same⟩ := map_ok.mp inserted
      cases same
      exact sound.insertMemo done
  | tag fields =>
      obtain ⟨⟨_, _⟩, done, same⟩ := map_ok.mp inserted
      cases same
      exact sound.insertTag done
  | attachment fields =>
      obtain ⟨⟨_, _⟩, done, same⟩ := map_ok.mp inserted
      cases same
      exact sound.insertAttachment done

/-- A user who is changed keeps the key and has a code that no other user has. -/
theorem updateUser (sound : Sound variant db) {id : Int} {fields : UserFields}
    {after : Database} {count : Nat} (updated : db.updateUser id fields = .ok (after, count)) :
    Sound variant after := by
  rcases updateUser_ok updated with ⟨rfl, -⟩ | ⟨users, old, stored, found, -, rfl, newCode⟩
  · exact sound
  · have table := userTable_of_stored stored
    obtain ⟨-, rfl⟩ := Table.mem_of_find? found
    have keys : users.DistinctKeys := table ▸ sound.userKeys
    refine sound.withUsers (fun key => ?_) keys.replace ?_
    · rw [table]
      exact Table.Stores.replace
    · refine Table.pairwise_replace keys (table ▸ sound.codes) fun other member different => ?_
      have apart := newCode other member different
      exact ⟨apart, apart.symm⟩

/-- A memo that is changed keeps its key and has a stored owner, an old one or a new one. -/
theorem updateMemo (sound : Sound variant db) {now : Instant} {id : Int} {fields : MemoFields}
    {after : Database} {count : Nat}
    (updated : db.updateMemo now id fields = .ok (after, count)) : Sound variant after := by
  rcases updateMemo_ok updated with
    ⟨rfl, -⟩ | ⟨memos, old, row, stored, found, -, made, rfl, owned⟩
  · exact sound
  · have table := memoTable_of_stored stored
    have oldStored := (Table.mem_of_find? found).1
    have keys : memos.DistinctKeys := table ▸ sound.memoKeys
    -- The trigger changes the time of the last change and nothing else.
    have owner : row.userId = fields.userId.getD old.userId := by
      rw [made]
      split
      · exact touched_keys.2
      · rfl
    refine sound.withMemos stored (fun key => Table.Stores.replace) keys.replace ?_
    intro memo member
    rcases Table.mem_replace member with rfl | before
    · rw [owner]
      cases given : fields.userId with
      | none => exact sound.memoOwners old (table ▸ oldStored)
      | some owner => exact owned owner given
    · exact sound.memoOwners memo (table ▸ before)

/-- A tag that is changed keeps its key and obeys the rules of new tags. -/
theorem updateTag (sound : Sound variant db) {id : Int} {fields : TagFields} {after : Database}
    {count : Nat} (updated : db.updateTag id fields = .ok (after, count)) :
    Sound variant after := by
  rcases updateTag_ok updated with
    ⟨rfl, -⟩ | ⟨tags, old, stored, found, -, rfl, rule, newName, owned⟩
  · exact sound
  · have table := tagTable_of_stored stored
    obtain ⟨oldStored, rfl⟩ := Table.mem_of_find? found
    have keys : tags.DistinctKeys := table ▸ sound.tagKeys
    refine sound.withTags stored (fun key => Table.Stores.replace) keys.replace ?_ ?_ ?_
    · intro tag member owner ownedBy
      rcases Table.mem_replace member with rfl | before
      · cases given : fields.userId with
        | none =>
            have same : old.userId = some owner := by simpa [Tag.set, given] using ownedBy
            exact sound.tagOwners old (table ▸ oldStored) owner same
        | some userId =>
            have same : userId = some owner := by simpa [Tag.set, given] using ownedBy
            exact owned owner (by rw [given, same])
      · exact sound.tagOwners tag (table ▸ before) owner ownedBy
    · intro tag member
      rcases Table.mem_replace member with rfl | before
      · exact rule
      · exact sound.tagRule tag (table ▸ before)
    · intro unique
      have names := sound.tagNames ((uniqueTagNames_of_stored stored).trans unique)
      refine Table.pairwise_replace keys (table ▸ names) fun other member different => ?_
      have apart := newName unique other member different
      exact ⟨(sameName_comm other _).trans apart, apart⟩

/-- An attachment that is changed keeps its key, and its memo and its tag are stored. -/
theorem updateAttachment (sound : Sound variant db) {id : Int} {fields : AttachmentFields}
    {after : Database} {count : Nat}
    (updated : db.updateAttachment id fields = .ok (after, count)) : Sound variant after := by
  rcases updateAttachment_ok updated with
    ⟨rfl, -⟩ | ⟨attachments, old, stored, found, -, rfl, memoStored, tagStored⟩
  · exact sound
  · have table := attachmentTable_of_stored stored
    have oldStored := (Table.mem_of_find? found).1
    have keys : attachments.DistinctKeys := table ▸ sound.attachmentKeys
    refine sound.withAttachments keys.replace ?_ ?_
    · intro attachment member
      rcases Table.mem_replace member with rfl | before
      · cases given : fields.memoId with
        | none => simpa [Attachment.set, given] using sound.attachedMemos old (table ▸ oldStored)
        | some memo => simpa [Attachment.set, given] using memoStored memo given
      · exact sound.attachedMemos attachment (table ▸ before)
    · intro attachment member
      rcases Table.mem_replace member with rfl | before
      · cases given : fields.tagId with
        | none => simpa [Attachment.set, given] using sound.attachedTags old (table ▸ oldStored)
        | some tag => simpa [Attachment.set, given] using tagStored tag given
      · exact sound.attachedTags attachment (table ▸ before)

/-- An update keeps a database sound. -/
theorem update (sound : Sound variant db) {now : Instant} {id : Int} {fields : Fields}
    {after : Database} {count : Nat} (updated : db.update now id fields = .ok (after, count)) :
    Sound variant after := by
  cases fields with
  | user fields => exact sound.updateUser updated
  | memo fields => exact sound.updateMemo updated
  | tag fields => exact sound.updateTag updated
  | attachment fields => exact sound.updateAttachment updated

end Sound

end Database

end MemoStore.Store
