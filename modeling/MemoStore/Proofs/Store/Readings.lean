import MemoStore.Proofs.Store.Cascade

/-!
# Reading rows

A row of a sound database is the only one with its key in its table, so it is what a reading by
the key finds.
-/

namespace MemoStore.Store.Database

open MemoStore.Record (Entity)
open MemoStore.Schema (Variant)

variable {variant : Variant} {db : Database} {entity : Entity}

/-- The rows of one table are rows of its entity. -/
private theorem entity_of_mem_map {α β : Type} {table : Option α} {rows : α → List β}
    {wrap : β → Row} {row : Row} (belongs : ∀ inner, (wrap inner).entity = entity)
    (member : row ∈ (table.map fun table => (rows table).map wrap).getD []) :
    row.entity = entity := by
  cases table with
  | none => cases member
  | some table =>
      obtain ⟨inner, -, rfl⟩ := List.mem_map.mp member
      exact belongs inner

/-- The rows of a table belong to its entity. -/
theorem entity_of_mem {row : Row} (member : row ∈ (db.rows? entity).getD []) :
    row.entity = entity := by
  cases entity <;> exact entity_of_mem_map (fun _ => rfl) member

/-- Two stored rows of a table with the same key are the same. -/
theorem Sound.stored_eq (sound : db.Sound variant) {row other : Row} (stored : db.Stored row)
    (otherStored : db.Stored other) (belongs : row.entity = other.entity)
    (same : row.key = other.key) : row = other := by
  cases row with
  | user row =>
      cases other with
      | user other =>
          exact congrArg Row.user
            (sound.userKeys.eq (stored_user.mp stored) (stored_user.mp otherStored) same)
      | _ => cases belongs
  | memo row =>
      cases other with
      | memo other =>
          exact congrArg Row.memo
            (sound.memoKeys.eq (stored_memo.mp stored) (stored_memo.mp otherStored) same)
      | _ => cases belongs
  | tag row =>
      cases other with
      | tag other =>
          exact congrArg Row.tag
            (sound.tagKeys.eq (stored_tag.mp stored) (stored_tag.mp otherStored) same)
      | _ => cases belongs
  | attachment row =>
      cases other with
      | attachment other =>
          exact congrArg Row.attachment (sound.attachmentKeys.eq (stored_attachment.mp stored)
            (stored_attachment.mp otherStored) same)
      | _ => cases belongs

/-- A stored row is read by its key. -/
theorem Sound.get (sound : db.Sound variant) {row : Row} (stored : db.Stored row) :
    db.get row.entity row.key = .ok (some row) := by
  cases found : db.rows? row.entity with
  | none =>
      rw [Stored, found] at stored
      cases stored
  | some rows =>
      have member : row ∈ rows := by simpa [Stored, found] using stored
      rw [Database.get, list, found]
      refine congrArg Except.ok (Table.find?_of_unique (List.mem_mergeSort.mpr member)
        (beq_self_eq_true _) fun other otherMember same => ?_)
      have listed : other ∈ (db.rows? row.entity).getD [] := by
        rw [found]
        exact List.mem_mergeSort.mp otherMember
      have belongs := entity_of_mem listed
      have otherStored : db.Stored other := by rwa [Stored, belongs]
      exact sound.stored_eq otherStored stored belongs (beq_iff_eq.mp same)

end MemoStore.Store.Database
