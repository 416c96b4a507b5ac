import MemoStore.Proofs.Store.Runs

/-!
# New keys

A table remembers the largest key it ever held, and a row that brings no key of its own gets
the next one. `Reachable.keys` carries along every run that no stored key is larger than the
remembered one, so the next key is always new.
-/

namespace MemoStore.Store

open MemoStore.Record (Fields)
open MemoStore.Schema (Variant)
open MemoStore.Time (Instant)

namespace Table

variable {α : Type} [Keyed α] {table : Table α} {row : α}

/-- No key is larger than the last one. -/
def Bounded (table : Table α) : Prop :=
  ∀ row ∈ table.rows, Keyed.key row ≤ table.lastKey

/-- The next key is not stored. -/
theorem Bounded.nextKey (bounded : table.Bounded) : ¬ table.Stores table.nextKey := by
  rintro ⟨row, member, same⟩
  have within := bounded row member
  rw [same, Table.nextKey] at within
  omega

/-- The key of a new row is new exactly if it brings none or one that is not stored. -/
theorem Bounded.new_iff (bounded : table.Bounded) {given : Option Int} :
    (!table.holds (given.getD table.nextKey)) = true ↔
      ¬ ∃ key, given = some key ∧ table.Stores key := by
  have opposite : (!table.holds (given.getD table.nextKey)) = true ↔
      ¬ table.Stores (given.getD table.nextKey) := by
    rw [← holds_iff, Bool.not_eq_true, Bool.not_eq_true']
  rw [opposite]
  cases given with
  | none => simpa using bounded.nextKey
  | some key => simp

/-- A table remembers the key of a row that is added. -/
theorem Bounded.add (bounded : table.Bounded) : (table.add row).Bounded := by
  intro other member
  rcases mem_add.mp member with before | rfl
  · exact Int.le_trans (bounded other before) (Int.le_max_left _ _)
  · exact Int.le_max_right _ _

/-- A row that takes the place of another one has the key of that one. -/
theorem Bounded.replace (bounded : table.Bounded) : (table.replace row).Bounded := by
  intro other member
  obtain ⟨old, before, rfl⟩ := List.mem_map.mp member
  have within := bounded old before
  split
  · rename_i same
    rwa [← beq_iff_eq.mp same]
  · exact within

/-- No key becomes larger when rows go. -/
theorem Bounded.remove (bounded : table.Bounded) (p : α → Bool) :
    (table.remove p).Bounded :=
  fun other member => bounded other (mem_remove.mp member).1

end Table

namespace Database

/-- No table has a key that is larger than its last one. -/
structure Bounded (db : Database) : Prop where
  users : db.userTable.Bounded
  memos : db.memoTable.Bounded
  tags : db.tagTable.Bounded
  attachments : db.attachmentTable.Bounded

variable {variant : Variant} {db after : Database} {now : Instant}

/-- An insertion keeps the keys of a database bounded. -/
theorem Bounded.insert (bounded : db.Bounded) {fields : Fields} {row : Row}
    (inserted : db.insert now fields = .ok (after, row)) : after.Bounded := by
  cases fields with
  | user fields =>
      obtain ⟨⟨_, row⟩, done, same⟩ := map_ok.mp inserted
      cases same
      obtain ⟨users, stored, rfl, -⟩ := insertUser_ok done
      exact { bounded with users := (userTable_of_stored stored ▸ bounded.users).add }
  | memo fields =>
      obtain ⟨⟨_, row⟩, done, same⟩ := map_ok.mp inserted
      cases same
      obtain ⟨memos, stored, rfl, -⟩ := insertMemo_ok done
      exact { bounded with memos := (memoTable_of_stored stored ▸ bounded.memos).add }
  | tag fields =>
      obtain ⟨⟨_, row⟩, done, same⟩ := map_ok.mp inserted
      cases same
      obtain ⟨tags, stored, rfl, -⟩ := insertTag_ok done
      exact { bounded with tags := (tagTable_of_stored stored ▸ bounded.tags).add }
  | attachment fields =>
      obtain ⟨⟨_, row⟩, done, same⟩ := map_ok.mp inserted
      cases same
      obtain ⟨attachments, stored, rfl, -⟩ := insertAttachment_ok done
      exact { bounded with
        attachments := (attachmentTable_of_stored stored ▸ bounded.attachments).add }

/-- An update keeps the keys of a database bounded. -/
theorem Bounded.update (bounded : db.Bounded) {id : Int} {fields : Fields} {count : Nat}
    (updated : db.update now id fields = .ok (after, count)) : after.Bounded := by
  cases fields with
  | user fields =>
      rcases updateUser_ok updated with ⟨rfl, -⟩ | ⟨users, old, stored, -, -, rfl, -⟩
      · exact bounded
      · exact { bounded with users := (userTable_of_stored stored ▸ bounded.users).replace }
  | memo fields =>
      rcases updateMemo_ok updated with ⟨rfl, -⟩ | ⟨memos, old, row, stored, -, -, -, rfl, -⟩
      · exact bounded
      · exact { bounded with memos := (memoTable_of_stored stored ▸ bounded.memos).replace }
  | tag fields =>
      rcases updateTag_ok updated with ⟨rfl, -⟩ | ⟨tags, old, stored, -, -, rfl, -⟩
      · exact bounded
      · exact { bounded with tags := (tagTable_of_stored stored ▸ bounded.tags).replace }
  | attachment fields =>
      rcases updateAttachment_ok updated with
        ⟨rfl, -⟩ | ⟨attachments, old, stored, -, -, rfl, -⟩
      · exact bounded
      · exact { bounded with
          attachments := (attachmentTable_of_stored stored ▸ bounded.attachments).replace }

/-- Where rows were lost, the keys are still bounded. -/
theorem Bounded.lost (bounded : db.Bounded) {f : Row → Bool} (lost : Lost db after f) :
    after.Bounded where
  users := lost.users ▸ bounded.users.remove _
  memos := lost.memos ▸ bounded.memos.remove _
  tags := lost.tags ▸ bounded.tags.remove _
  attachments := lost.attachments ▸ bounded.attachments.remove _

/-- Every statement over a sound database keeps its keys bounded. -/
theorem Bounded.change (bounded : db.Bounded) (sound : db.Sound variant)
    (change : db.Change now after) : after.Bounded := by
  cases change with
  | insert inserted => exact bounded.insert inserted
  | update updated => exact bounded.update updated
  | delete deleted =>
      rw [delete_eq sound] at deleted
      cases deleted
      exact bounded.lost (lost_removeRows sound.toLinked _ _)

/-- The keys of a database without rows are bounded. -/
theorem bounded_of_empty (contents : SameContents {} db) : db.Bounded where
  users := by rw [contents.users]; exact fun _ member => absurd member List.not_mem_nil
  memos := by rw [contents.memos]; exact fun _ member => absurd member List.not_mem_nil
  tags := by rw [contents.tags]; exact fun _ member => absurd member List.not_mem_nil
  attachments := by
    rw [contents.attachments]
    exact fun _ member => absurd member List.not_mem_nil

end Database

/-- Every reachable connection is to a sound database with bounded keys. -/
theorem Connection.Reachable.keys {variant : Variant} {connection : Connection}
    (reachable : Connection.Reachable variant connection) :
    ∃ db, connection.On db ∧ db.Sound variant ∧ db.Bounded :=
  reachable.keeps
    (fun _ complete contents index =>
      ⟨Database.sound_of_empty contents complete index, Database.bounded_of_empty contents⟩)
    fun _ _ _ before change => ⟨before.1.change change, before.2.change before.1 change⟩

end MemoStore.Store
