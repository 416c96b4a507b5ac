import MemoStore.Proofs.Store.Verdicts

/-!
# What a write leaves

The database that a write leaves, computed from the row alone: an insertion leaves it with the row
added (`insert_adds`), an update of a stored row with the row replaced (`update_replaces`), and an
update of a row that is not stored as it was (`update_absent`). `save_stored` and `save_absent` say
the same of an update over a connection, which succeeds exactly if the update of the database
does: the row that was written is there to be read back.
-/

namespace MemoStore.Store

open MemoStore.Record (Entity Fields)
open MemoStore.Schema (Variant)
open MemoStore.Time (Instant)

/-- A new row belongs to the entity of its columns. -/
theorem Trial.insertion_entity {db : Database} {now : Instant} {fields : Fields} :
    (Trial.insertion db now fields).row.entity = fields.entity := by
  cases fields <;> rfl

/-- No row is found by a key that is not stored. -/
theorem Table.find?_absent {α : Type} [Keyed α] {table : Table α} {key : Int}
    (absent : ¬ table.Stores key) : table.find? key = none :=
  List.find?_eq_none.mpr fun row member same => absent ⟨row, member, beq_iff_eq.mp same⟩

namespace Database

/-- A database with a row added to its table. -/
def adding (db : Database) : Row → Database
  | .user row => { db with users := db.users.map fun table => table.add row }
  | .memo row =>
    { db with memos := db.memos.map fun table => { table with toTable := table.add row } }
  | .tag row =>
    { db with tags := db.tags.map fun table => { table with toTable := table.add row } }
  | .attachment row => { db with attachments := db.attachments.map fun table => table.add row }

/-- A database with a row in the place of the one with its key. -/
def replacing (db : Database) : Row → Database
  | .user row => { db with users := db.users.map fun table => table.replace row }
  | .memo row =>
    { db with memos := db.memos.map fun table => { table with toTable := table.replace row } }
  | .tag row =>
    { db with tags := db.tags.map fun table => { table with toTable := table.replace row } }
  | .attachment row => { db with attachments := db.attachments.map fun table => table.replace row }

variable {variant : Variant} {db after : Database} {now : Instant} {fields : Fields} {row : Row}
  {id : Int} {count : Nat}

/-- The rows of every table after a row is added to one of them. -/
theorem rows?_adding (kind : Entity) :
    (db.adding row).rows? kind =
      (db.rows? kind).map fun rows => if kind = row.entity then rows ++ [row] else rows := by
  cases row <;> cases kind <;>
    simp [adding, rows?, Row.entity, Table.add, Function.comp_def]

/-- The rows of every table after a row is replaced in one of them. -/
theorem rows?_replacing (kind : Entity) :
    (db.replacing row).rows? kind = (db.rows? kind).map (List.map fun old =>
      if old.entity = row.entity ∧ old.key = row.key then row else old) := by
  cases row <;> cases kind <;>
    simp [replacing, rows?, Row.entity, Row.key, Table.replace, Keyed.key, Function.comp_def,
      apply_ite]

/-- An insertion leaves the row added, under a key that was not stored. -/
theorem insert_adds (inserted : db.insert now fields = .ok (after, row)) :
    after = db.adding row ∧ ¬ db.StoresKey row.entity row.key := by
  cases fields with
  | user fields =>
      obtain ⟨⟨_, row⟩, done, same⟩ := map_ok.mp inserted
      cases same
      obtain ⟨users, stored, rfl, new, -⟩ := insertUser_ok done
      have table := userTable_of_stored stored
      exact ⟨by simp [adding, stored], fun stores => new (table ▸ storesKey_user.mp stores)⟩
  | memo fields =>
      obtain ⟨⟨_, row⟩, done, same⟩ := map_ok.mp inserted
      cases same
      obtain ⟨memos, stored, rfl, new, -⟩ := insertMemo_ok done
      have table := memoTable_of_stored stored
      exact ⟨by simp [adding, stored], fun stores => new (table ▸ storesKey_memo.mp stores)⟩
  | tag fields =>
      obtain ⟨⟨_, row⟩, done, same⟩ := map_ok.mp inserted
      cases same
      obtain ⟨tags, stored, rfl, new, -⟩ := insertTag_ok done
      have table := tagTable_of_stored stored
      exact ⟨by simp [adding, stored], fun stores => new (table ▸ storesKey_tag.mp stores)⟩
  | attachment fields =>
      obtain ⟨⟨_, row⟩, done, same⟩ := map_ok.mp inserted
      cases same
      obtain ⟨attachments, stored, rfl, new, -⟩ := insertAttachment_ok done
      have table := attachmentTable_of_stored stored
      exact ⟨by simp [adding, stored], fun stores => new (table ▸ storesKey_attachment.mp stores)⟩

/-- An update of a row that is not stored leaves everything as it was. -/
theorem update_absent (sound : db.Sound variant) (absent : ¬ db.StoresKey fields.entity id) :
    db.update now id fields = .ok (db, 0) := by
  cases fields with
  | user fields =>
      have table := users_of_has (sound.complete.tables .user)
      have none := Table.find?_absent fun stores => absent (storesKey_user.mpr stores)
      simp only [update, updateUser, table, none]
  | memo fields =>
      obtain ⟨memos, stored, table⟩ := memos_of_has (sound.complete.tables .memo)
      have none := Table.find?_absent fun stores => absent (storesKey_memo.mpr (table ▸ stores))
      simp only [update, updateMemo, stored, sound.requireReferenced, none]
      rfl
  | tag fields =>
      obtain ⟨tags, stored, table⟩ := tags_of_has (sound.complete.tables .tag)
      have none := Table.find?_absent fun stores => absent (storesKey_tag.mpr (table ▸ stores))
      simp only [update, updateTag, stored, sound.requireReferenced, none]
      rfl
  | attachment fields =>
      have table := attachments_of_has (sound.complete.tables .attachment)
      have none := Table.find?_absent fun stores => absent (storesKey_attachment.mpr stores)
      simp only [update, updateAttachment, table, sound.requireReferenced, none]
      rfl

/-- An update of a stored row leaves it replaced. -/
theorem update_replaces (sound : db.Sound variant) {old : Row} (stored : db.Stored old)
    (belongs : old.entity = fields.entity)
    (updated : db.update now old.key fields = .ok (after, count)) :
    after = db.replacing (Trial.change now old fields).row ∧ count = 1 := by
  have affected : count = 1 := ((db.update_decided sound stored belongs).kept updated).2.1
  refine ⟨?_, affected⟩
  cases old with
  | user old =>
      cases fields with
      | user fields =>
          rcases updateUser_ok updated with ⟨-, rfl⟩ | ⟨users, other, table, found, -, rfl, -⟩
          · cases affected
          · have same := sound.userKeys.find? (stored_user.mp stored)
            rw [userTable_of_stored table] at same
            cases found.symm.trans same
            simp [replacing, Trial.change, table]
      | memo | tag | attachment => cases belongs
  | memo old =>
      cases fields with
      | memo fields =>
          rcases updateMemo_ok updated with
            ⟨-, rfl⟩ | ⟨memos, other, row, table, found, -, made, rfl, -⟩
          · cases affected
          · have same := sound.memoKeys.find? (stored_memo.mp stored)
            rw [memoTable_of_stored table] at same
            cases found.symm.trans same
            have touches : memos.touches = true := by
              simpa [touchesMemos, table] using sound.complete.trigger
            simp [replacing, Trial.change, table, made, touches]
      | user | tag | attachment => cases belongs
  | tag old =>
      cases fields with
      | tag fields =>
          rcases updateTag_ok updated with ⟨-, rfl⟩ | ⟨tags, other, table, found, -, rfl, -⟩
          · cases affected
          · have same := sound.tagKeys.find? (stored_tag.mp stored)
            rw [tagTable_of_stored table] at same
            cases found.symm.trans same
            simp [replacing, Trial.change, table]
      | user | memo | attachment => cases belongs
  | attachment old =>
      cases fields with
      | attachment fields =>
          rcases updateAttachment_ok updated with
            ⟨-, rfl⟩ | ⟨attachments, other, table, found, -, rfl, -⟩
          · cases affected
          · have same := sound.attachmentKeys.find? (stored_attachment.mp stored)
            rw [attachmentTable_of_stored table] at same
            cases found.symm.trans same
            simp [replacing, Trial.change, table]
      | user | memo | tag => cases belongs

/-- Nothing is read by a key that is not stored. -/
theorem get_absent (sound : db.Sound variant) {entity : Entity}
    (absent : ¬ db.StoresKey entity id) : db.get entity id = .ok none := by
  cases table : db.rows? entity with
  | none =>
      have present := sound.complete.tables entity
      cases entity <;> simp [has, rows?] at present table <;> simp [table] at present
  | some rows =>
      rw [get, list, table]
      refine congrArg Except.ok (List.find?_eq_none.mpr fun row member same => absent ?_)
      refine storesKey_iff.mpr ⟨row, ?_, beq_iff_eq.mp same⟩
      rw [table]
      exact List.mem_mergeSort.mp member

end Database

namespace Connection

open Trial

variable {variant : Variant} {connection : Connection} {db : Database} {now : Instant}
  {fields : Fields}

/-- A reading over a connection to a database. -/
theorem get_eq (on : connection.On db) (entity : Entity) (id : Int) :
    connection.get entity id = (db.get entity id).mapError readFailure := by
  rw [Connection.get, read, on.storage]

/-- An update of a stored row over a connection succeeds exactly if that of the database does. It
writes nothing if it changes no column. -/
theorem save_stored (on : connection.On db) (sound : db.Sound variant) {old : Row}
    (stored : db.Stored old) (belongs : old.entity = fields.entity) :
    connection.save now old.key fields =
      ((db.update now old.key fields).mapError writeFailure).map fun _ =>
        (if fields.changes = [] then connection
          else connection.wrote (db.replacing (change now old fields).row),
        (change now old fields).row) := by
  have decided : db.Decides variant (change now old fields) (db.update now old.key fields)
      fun count => count = 1 := db.update_decided sound stored belongs
  by_cases unchanged : fields.changes = []
  · have same : change now old fields = { row := old } := by
      rw [change_eq, change_row unchanged]
    rw [same] at decided
    obtain ⟨result, updated, -⟩ := decided.ok fun breach _ => not_breaks sound stored breach
    rw [updated, save, unchanged, same, ← belongs]
    exact readBack_on on sound stored
  · have changed : fields.changes.isEmpty = false := by simpa using unchanged
    rw [save, changed, write_on on]
    cases updated : db.update now old.key fields with
    | error refusal => rfl
    | ok result =>
        obtain ⟨after, count⟩ := result
        obtain ⟨rfl, rfl⟩ := db.update_replaces sound stored belongs updated
        have afterStored := (decided.kept updated).2.2
        have back := readBack_on (on.wrote _) (sound.update updated) afterStored
        rw [change_entity, change_rowKey, belongs] at back
        simpa [Except.map, Except.mapError, unchanged] using back

/-- An update of a row that is not stored fails over a connection. -/
theorem save_absent (on : connection.On db) (sound : db.Sound variant) {id : Int}
    (absent : ¬ db.StoresKey fields.entity id) :
    connection.save now id fields =
      .error (if fields.changes = [] then notFound else notUpdated) := by
  by_cases unchanged : fields.changes = []
  · rw [save, readBack, get_eq on, db.get_absent sound absent]
    simp [unchanged, Except.mapError]
  · rw [save, write_on on, db.update_absent sound absent]
    simp [unchanged, Except.map]

end Connection

end MemoStore.Store
