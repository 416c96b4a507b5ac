import MemoStore.Proofs.Store.Contents
import MemoStore.Proofs.Store.Tables
import MemoStore.Store.Update

/-!
# What statements change

For every insertion and update that succeeds: which table it changes and how, and what
the engine has checked before. A row that refers to another is only stored while that one
is.
-/

namespace MemoStore.Store

open MemoStore.Record (Entity UserFields MemoFields TagFields AttachmentFields)
open MemoStore.Time (Instant)

/-! ## Checks -/

/-- A chain of two steps succeeds when the first does and the second does on what it found. -/
theorem bind_ok {ε α β : Type} {first : Except ε α} {f : α → Except ε β} {value : β} :
    first >>= f = .ok value ↔ ∃ found, first = .ok found ∧ f found = .ok value := by
  cases first with
  | error refusal =>
      constructor
      · intro impossible
        cases impossible
      · rintro ⟨found, impossible, -⟩
        cases impossible
  | ok found =>
      constructor
      · intro later
        exact ⟨found, rfl, later⟩
      · rintro ⟨_, ⟨⟩, later⟩
        exact later

/-- A mapped result is a success when the result is. -/
theorem map_ok {ε α β : Type} {result : Except ε α} {f : α → β} {value : β} :
    result.map f = .ok value ↔ ∃ found, result = .ok found ∧ f found = value := by
  cases result <;> simp [Except.map]

/-- Renaming the errors of a result adds and takes no success. -/
theorem mapError_ok {ε δ α : Type} {result : Except ε α} {f : ε → δ} {value : α} :
    result.mapError f = .ok value ↔ result = .ok value := by
  cases result with
  | error error =>
      refine iff_of_false ?_ ?_ <;>
        · intro impossible
          cases impossible
  | ok found =>
      constructor <;>
        · intro same
          cases same
          rfl

/-- A demand is met when its condition holds. -/
theorem demand_ok {condition : Bool} {refusal : Refusal} {done : Unit} :
    demand condition refusal = .ok done ↔ condition = true := by
  cases condition <;> simp [demand]

/-- A required column is there when a value is given for it. -/
theorem required_ok {α : Type} {entity : Entity} {column : String} {given : Option α}
    {value : α} : required entity column given = .ok value ↔ given = some value := by
  cases given <;> simp [required]

/-- The rule that a tag is official or has an owner. -/
theorem ownerRule_iff {isOfficial : Bool} {userId : Option Int} :
    ownerRule isOfficial userId = true ↔
      (isOfficial = true ∧ userId = none) ∨ (isOfficial = false ∧ ∃ owner, userId = some owner) := by
  cases isOfficial <;> cases userId <;> simp [ownerRule]

/-- The trigger changes no key. -/
theorem touched_keys {now : Instant} {old new : Memo} :
    (touched now old new).id = new.id ∧ (touched now old new).userId = new.userId := by
  unfold touched
  split <;> exact ⟨rfl, rfl⟩

namespace Database

variable {db after : Database}

/-- The lookup of a user finds exactly the stored keys. -/
theorem holdsUser_iff {id : Int} : db.holdsUser id = true ↔ db.userTable.Stores id := by
  rw [← Table.holds_iff]
  cases stored : db.users <;> simp [holdsUser, userTable, stored, Table.holds]

/-- The lookup of a memo finds exactly the stored keys. -/
theorem holdsMemo_iff {id : Int} : db.holdsMemo id = true ↔ db.memoTable.Stores id := by
  rw [← Table.holds_iff]
  cases stored : db.memos <;> simp [holdsMemo, memoTable, stored, Table.holds]

/-- The lookup of a tag finds exactly the stored keys. -/
theorem holdsTag_iff {id : Int} : db.holdsTag id = true ↔ db.tagTable.Stores id := by
  rw [← Table.holds_iff]
  cases stored : db.tags <;> simp [holdsTag, tagTable, stored, Table.holds]

/-! ## Insertions -/

/-- An inserted user has a new key and a new code. -/
theorem insertUser_ok {fields : UserFields} {row : User}
    (inserted : db.insertUser fields = .ok (after, row)) :
    ∃ users, db.users = some users ∧ after = { db with users := some (users.add row) } ∧
      ¬ users.Stores row.id ∧ ∀ other ∈ users.rows, other.code ≠ row.code := by
  unfold insertUser at inserted
  split at inserted
  · cases inserted
  · rename_i users stored
    simp only [bind_ok, required_ok, demand_ok, pure, Except.pure] at inserted
    obtain ⟨name, named, code, coded, _, newKey, _, newCode, inserted⟩ := inserted
    cases inserted
    exact ⟨users, stored, rfl, Table.not_stores_of_holds newKey, by simpa using newCode⟩

/-- An inserted memo has a new key and the key of a stored user. -/
theorem insertMemo_ok {now : Instant} {fields : MemoFields} {row : Memo}
    (inserted : db.insertMemo now fields = .ok (after, row)) :
    ∃ memos, db.memos = some memos ∧
      after = { db with memos := some { memos with toTable := memos.add row } } ∧
      ¬ memos.Stores row.id ∧ db.userTable.Stores row.userId := by
  unfold insertMemo at inserted
  split at inserted
  · cases inserted
  · rename_i memos stored
    simp only [bind_ok, required_ok, demand_ok, pure, Except.pure, holdsUser_iff] at inserted
    obtain ⟨_, _, userId, _, title, _, content, _, _, newKey, _, owned, inserted⟩ := inserted
    cases inserted
    exact ⟨memos, stored, rfl, Table.not_stores_of_holds newKey, owned⟩

/-- An inserted tag is official or has a stored user, and takes no name where names are
unique. -/
theorem insertTag_ok {fields : TagFields} {row : Tag}
    (inserted : db.insertTag fields = .ok (after, row)) :
    ∃ tags, db.tags = some tags ∧
      after = { db with tags := some { tags with toTable := tags.add row } } ∧
      ¬ tags.Stores row.id ∧ ownerRule row.isOfficial row.userId = true ∧
      (tags.uniqueNames = true → ∀ other ∈ tags.rows, sameName row other = false) ∧
      ∀ owner, row.userId = some owner → db.userTable.Stores owner := by
  unfold insertTag at inserted
  split at inserted
  · cases inserted
  · rename_i tags stored
    simp only [bind_ok, required_ok, demand_ok, pure, Except.pure] at inserted
    obtain ⟨_, _, name, _, _, rule, _, newKey, _, newName, _, owned, inserted⟩ := inserted
    cases inserted
    refine ⟨tags, stored, rfl, Table.not_stores_of_holds newKey, rule, ?_, ?_⟩
    · intro unique
      simpa [unique] using newName
    · intro owner given
      rw [show fields.userId.join = some owner from given] at owned
      exact holdsUser_iff.mp owned

/-- An inserted attachment has a new key and the keys of a stored memo and a stored tag. -/
theorem insertAttachment_ok {fields : AttachmentFields} {row : Attachment}
    (inserted : db.insertAttachment fields = .ok (after, row)) :
    ∃ attachments, db.attachments = some attachments ∧
      after = { db with attachments := some (attachments.add row) } ∧
      ¬ attachments.Stores row.id ∧ db.memoTable.Stores row.memoId ∧
      db.tagTable.Stores row.tagId := by
  unfold insertAttachment at inserted
  split at inserted
  · cases inserted
  · rename_i attachments stored
    simp only [bind_ok, required_ok, demand_ok, pure, Except.pure, Bool.and_eq_true,
      holdsMemo_iff, holdsTag_iff] at inserted
    obtain ⟨_, _, memoId, _, tagId, _, _, newKey, _, ⟨memo, tag⟩, inserted⟩ := inserted
    cases inserted
    exact ⟨attachments, stored, rfl, Table.not_stores_of_holds newKey, memo, tag⟩

/-! ## Updates -/

/-- An updated user takes no code of another one. -/
theorem updateUser_ok {id : Int} {fields : UserFields} {count : Nat}
    (updated : db.updateUser id fields = .ok (after, count)) :
    (after = db ∧ count = 0) ∨
      ∃ users old, db.users = some users ∧ users.find? id = some old ∧ count = 1 ∧
        after = { db with users := some (users.replace (old.set fields)) } ∧
        ∀ other ∈ users.rows, other.id ≠ id → other.code ≠ (old.set fields).code := by
  unfold updateUser at updated
  split at updated
  · cases updated
  · rename_i users stored
    split at updated
    · cases updated
      exact .inl ⟨rfl, rfl⟩
    · rename_i old found
      simp only [bind_ok, demand_ok, pure, Except.pure] at updated
      obtain ⟨_, newCode, updated⟩ := updated
      cases updated
      exact .inr ⟨users, old, stored, found, rfl, rfl, by simpa using newCode⟩

/-- An updated memo that is given another user is given a stored one. -/
theorem updateMemo_ok {now : Instant} {id : Int} {fields : MemoFields} {count : Nat}
    (updated : db.updateMemo now id fields = .ok (after, count)) :
    (after = db ∧ count = 0) ∨
      ∃ memos old row, db.memos = some memos ∧ memos.find? id = some old ∧ count = 1 ∧
        row = (if memos.touches then touched now old (old.set fields) else old.set fields) ∧
        after = { db with memos := some { memos with toTable := memos.replace row } } ∧
        ∀ owner, fields.userId = some owner → db.userTable.Stores owner := by
  unfold updateMemo at updated
  split at updated
  · cases updated
  · rename_i memos stored
    simp only [bind_ok] at updated
    obtain ⟨_, _, updated⟩ := updated
    split at updated
    · cases updated
      exact .inl ⟨rfl, rfl⟩
    · rename_i old found
      simp only [bind_ok, demand_ok, pure, Except.pure] at updated
      obtain ⟨_, owned, updated⟩ := updated
      cases updated
      refine .inr ⟨memos, old, _, stored, found, rfl, rfl, rfl, fun owner given => ?_⟩
      rw [given] at owned
      exact holdsUser_iff.mp owned

/-- An updated tag is official or has a stored user, and takes no name of another one where
names are unique. -/
theorem updateTag_ok {id : Int} {fields : TagFields} {count : Nat}
    (updated : db.updateTag id fields = .ok (after, count)) :
    (after = db ∧ count = 0) ∨
      ∃ tags old, db.tags = some tags ∧ tags.find? id = some old ∧ count = 1 ∧
        after = { db with tags := some { tags with toTable := tags.replace (old.set fields) } } ∧
        ownerRule (old.set fields).isOfficial (old.set fields).userId = true ∧
        (tags.uniqueNames = true →
          ∀ other ∈ tags.rows, other.id ≠ id → sameName (old.set fields) other = false) ∧
        ∀ owner, fields.userId = some (some owner) → db.userTable.Stores owner := by
  unfold updateTag at updated
  split at updated
  · cases updated
  · rename_i tags stored
    simp only [bind_ok] at updated
    obtain ⟨_, _, updated⟩ := updated
    split at updated
    · cases updated
      exact .inl ⟨rfl, rfl⟩
    · rename_i old found
      simp only [bind_ok, demand_ok, pure, Except.pure] at updated
      obtain ⟨_, rule, _, newName, _, owned, updated⟩ := updated
      cases updated
      refine .inr
        ⟨tags, old, stored, found, rfl, rfl, rule, fun unique => ?_, fun owner given => ?_⟩
      · simpa [unique] using newName
      · rw [given] at owned
        exact holdsUser_iff.mp owned

/-- An updated attachment that is given another memo or tag is given a stored one. -/
theorem updateAttachment_ok {id : Int} {fields : AttachmentFields} {count : Nat}
    (updated : db.updateAttachment id fields = .ok (after, count)) :
    (after = db ∧ count = 0) ∨
      ∃ attachments old, db.attachments = some attachments ∧ attachments.find? id = some old ∧
        count = 1 ∧
        after = { db with attachments := some (attachments.replace (old.set fields)) } ∧
        (∀ memo, fields.memoId = some memo → db.memoTable.Stores memo) ∧
        ∀ tag, fields.tagId = some tag → db.tagTable.Stores tag := by
  unfold updateAttachment at updated
  split at updated
  · cases updated
  · rename_i attachments stored
    simp only [bind_ok] at updated
    obtain ⟨_, _, updated⟩ := updated
    split at updated
    · cases updated
      exact .inl ⟨rfl, rfl⟩
    · rename_i old found
      simp only [bind_ok, demand_ok, pure, Except.pure, Bool.and_eq_true] at updated
      obtain ⟨_, ⟨memoStored, tagStored⟩, updated⟩ := updated
      cases updated
      refine .inr ⟨attachments, old, stored, found, rfl, rfl, fun memo given => ?_,
        fun tag given => ?_⟩
      · rw [given] at memoStored
        exact holdsMemo_iff.mp memoStored
      · rw [given] at tagStored
        exact holdsTag_iff.mp tagStored

end Database

end MemoStore.Store
