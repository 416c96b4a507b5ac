import MemoStore.Proofs.Store.Variants

/-!
# The time of the last change

When the trigger on memos sets the time of the last change. It does not see which columns a
statement sets, only the memo before and after, so what it does is a matter of values: it fires if
that time is what it was while something else is not. Its own update leaves everything else alone,
so `settles_iff` says that it fires at most once. `Reachable.refreshed` says what every update of a
memo stores, and `Reachable.explicit_time` what becomes of a time that the update sets itself: it
is kept unless it is the stored one and something else changes.
-/

namespace MemoStore.Store

open MemoStore.Record (Fields MemoFields)
open MemoStore.Schema (Variant)
open MemoStore.Time (Instant)

/-! ## The trigger -/

namespace Memo

/-- Whether two memos differ in something that the trigger looks at, other than the time of the
last change. -/
def Differs (old new : Memo) : Prop :=
  new.title ≠ old.title ∨ new.content ≠ old.content ∨ new.userId ≠ old.userId ∨
    new.createdAt ≠ old.createdAt

/-- A memo with another time of its last change. -/
def changedAt (memo : Memo) (time : Stamp) : Memo :=
  { memo with updatedAt := time }

variable {now : Instant} {old new last : Memo} {time : Stamp}

/-- A new time of the last change is no other difference. -/
theorem not_differs_changedAt : ¬ new.Differs (new.changedAt time) := by
  simp [Differs, changedAt]

/-- The trigger fires if only the time of the last change is what it was. -/
theorem touchFires_iff :
    touchFires old new = true ↔ new.updatedAt = old.updatedAt ∧ old.Differs new := by
  simp only [touchFires, Differs, Bool.and_eq_true, Bool.or_eq_true, beq_iff_eq, bne_iff_ne,
    or_assoc]

/-- The update that the trigger makes does not fire it. -/
theorem touchFires_changedAt : touchFires new (new.changedAt time) = false := by
  rw [Bool.eq_false_iff, ne_eq, touchFires_iff]
  exact fun fires => not_differs_changedAt fires.2

/-- Where the trigger fires, the memo gets the time of the clock. -/
theorem touched_of_fires (fires : touchFires old new = true) :
    touched now old new = new.changedAt (.ofClock now) :=
  if_pos fires

/-- Where the trigger does not fire, the memo stays as it was written. -/
theorem touched_of_quiet (quiet : touchFires old new = false) : touched now old new = new :=
  if_neg (Bool.eq_false_iff.mp quiet)

/-- What is left of a memo that was `old` and is written as `new`, if the trigger answers every
update, its own too. -/
inductive Settles (now : Instant) : Memo → Memo → Memo → Prop where
  | quiet {old new : Memo} : touchFires old new = false → Settles now old new new
  | fires {old new last : Memo} : touchFires old new = true →
      Settles now new (new.changedAt (.ofClock now)) last → Settles now old new last

/-- The trigger settles, after it fired once or not at all. -/
theorem settles_iff : Settles now old new last ↔ last = touched now old new := by
  constructor
  · intro settles
    cases settles with
    | quiet quiet => exact (touched_of_quiet quiet).symm
    | fires fires again =>
        rw [touched_of_fires fires]
        -- Asked of its own update, the trigger has nothing to say.
        cases again with
        | quiet => rfl
        | fires fires => exact absurd fires (Bool.eq_false_iff.mp touchFires_changedAt)
  · rintro rfl
    cases fires : touchFires old new with
    | false =>
        rw [touched_of_quiet fires]
        exact .quiet fires
    | true =>
        rw [touched_of_fires fires]
        exact .fires fires (.quiet touchFires_changedAt)

/-- What an update makes of a memo. -/
structure Refreshed (now : Instant) (fields : MemoFields) (old final : Memo) : Prop where
  /-- The current time is filled in if something but the time of the last change differs. -/
  filled : (old.set fields).updatedAt = old.updatedAt → old.Differs (old.set fields) →
    final = (old.set fields).changedAt (.ofClock now)
  /-- Otherwise the memo is as it was set. -/
  kept : ¬ ((old.set fields).updatedAt = old.updatedAt ∧ old.Differs (old.set fields)) →
    final = old.set fields
  /-- The time of creation changes only if it is set. -/
  createdAt : fields.createdAt = none → final.createdAt = old.createdAt
  /-- The update of the trigger does not fire it again. -/
  quiet : ∀ time, touchFires (old.set fields) ((old.set fields).changedAt time) = false
  /-- So it makes no difference whether the trigger answers its own update. -/
  settles : ∀ last, Settles now old (old.set fields) last ↔ last = final

/-- An update with its trigger does what `Refreshed` says. -/
theorem refreshed_touched (now : Instant) (fields : MemoFields) (old : Memo) :
    Refreshed now fields old (touched now old (old.set fields)) where
  filled same differs := touched_of_fires (touchFires_iff.mpr ⟨same, differs⟩)
  kept other :=
    touched_of_quiet (Bool.eq_false_iff.mpr fun fires => other (touchFires_iff.mp fires))
  createdAt unset := by
    have created : (old.set fields).createdAt = old.createdAt := by simp [Memo.set, unset]
    rw [← created, touched]
    split <;> rfl
  quiet _ := touchFires_changedAt
  settles _ := settles_iff

/-- A time that is set is kept unless it is the stored one and something else changes. -/
theorem updatedAt_touched {fields : MemoFields} {instant : Instant}
    (given : fields.updatedAt = some instant) :
    ((touched now old (old.set fields)).updatedAt = .given instant ↔
      ¬ (old.updatedAt = .given instant ∧ old.Differs (old.set fields))) ∧
    (old.updatedAt = .given instant → old.Differs (old.set fields) →
      (touched now old (old.set fields)).updatedAt = .ofClock now) := by
  have set : (old.set fields).updatedAt = .given instant := by simp [Memo.set, given]
  cases fires : touchFires old (old.set fields) with
  | false =>
      have quiet : ¬ (old.updatedAt = .given instant ∧ old.Differs (old.set fields)) := by
        rintro ⟨same, differs⟩
        exact Bool.eq_false_iff.mp fires (touchFires_iff.mpr ⟨set.trans same.symm, differs⟩)
      rw [touched_of_quiet fires]
      exact ⟨iff_of_true set quiet, fun same differs => absurd ⟨same, differs⟩ quiet⟩
  | true =>
      obtain ⟨same, differs⟩ := touchFires_iff.mp fires
      rw [touched_of_fires fires]
      refine ⟨iff_of_false ?_ fun kept => kept ⟨same.symm.trans set, differs⟩, fun _ _ => rfl⟩
      intro impossible
      cases impossible

end Memo

/-! ## Updates of memos -/

/-- The row that an update makes is stored afterwards. -/
theorem Database.Updated.stored_row {db after : Database} {now : Instant} {fields : Fields}
    {old row : Row} (updated : db.Updated now fields after old row) : after.Stored row := by
  have member : old ∈ (db.rows? old.entity).getD [] := updated.stored
  rw [Stored, updated.key.1, updated.rows]
  cases table : db.rows? old.entity with
  | none =>
      rw [table] at member
      cases member
  | some rows =>
      rw [table] at member
      exact List.mem_map.mpr ⟨old, member, if_pos rfl⟩

namespace Connection

variable {variant : Variant} {connection : Connection} {db : Database} {now : Instant}
  {request : Request} {id : Int}

/-- An update that is answered with a row leaves that row in the place of the old one, of which
it is made. -/
theorem change_of_row (on : connection.On db) (sound : db.Sound variant) {fields : Fields}
    (target : request.target? = some (id, fields)) {row : Row}
    (answered : (connection.handle now request).answer = .row row) :
    ∃ old after, old.key = id ∧ row = (Trial.change now old fields).row ∧
      (connection.handle now request).connection.storage = .database after ∧
      db.Updated now fields after old row := by
  have saves : connection.handle now request =
      connection.replyTo (connection.save now id fields) .row := by
    cases request with
    | save => cases target; rfl
    | update loaded fields =>
        cases target
        by_cases stores : db.StoresKey fields.entity loaded
        · exact handle_update_stored on sound stores
        · rw [handle_update_absent on sound stores] at answered
          cases answered
    | _ => cases target
  have saved := saving on sound now id fields
  rw [← saves] at saved
  generalize connection.handle now request = reply at saved answered ⊢
  cases saved with
  | refused | absent => cases answered
  | unchanged stored belongs unchanged =>
      have left := db.updated_of_unchanged now sound stored belongs unchanged
      cases answered
      exact ⟨_, db, rfl, rfl, on.storage, left⟩
  | changed stored belongs =>
      have left := db.updated_of_change now sound stored belongs
      cases answered
      exact ⟨_, _, rfl, rfl, rfl, left⟩

/-- The memo that an update stores is what the trigger makes of it. -/
theorem touched_of_row (on : connection.On db) (sound : db.Sound variant) {fields : MemoFields}
    (target : request.target? = some (id, .memo fields)) {row : Row}
    (answered : (connection.handle now request).answer = .row row) :
    ∃ old after, old.id = id ∧ row = .memo (touched now old (old.set fields)) ∧
      (connection.handle now request).connection.storage = .database after ∧
      db.Updated now (.memo fields) after (.memo old) row := by
  obtain ⟨old, after, key, made, left, updated⟩ := change_of_row on sound target answered
  cases old with
  | memo old => exact ⟨old, after, key, made, left, updated⟩
  | user | tag | attachment => cases updated.belongs

/-- Every update of a memo over a reachable connection that succeeds fills in the current time as
that of the last change if this time is left as it was while something else changes, and otherwise
stores the memo as it was set. Every other row stays as it was. -/
theorem Reachable.refreshed (reachable : Reachable variant connection) (now : Instant)
    {fields : MemoFields} (target : request.target? = some (id, .memo fields)) {row : Row}
    (answered : (connection.handle now request).answer = .row row) :
    ∃ db after old final, connection.storage = .database db ∧
      (connection.handle now request).connection.storage = .database after ∧
      db.Stored (.memo old) ∧ old.id = id ∧ row = .memo final ∧ after.Stored (.memo final) ∧
      Memo.Refreshed now fields old final ∧
      ∀ kind, after.rows? kind = (db.rows? kind).map
        (List.map fun other => if other = .memo old then .memo final else other) := by
  obtain ⟨db, on, sound⟩ := reachable.sound
  obtain ⟨old, after, key, rfl, left, updated⟩ := touched_of_row on sound target answered
  exact ⟨db, after, old, _, on.storage, left, updated.stored, key, rfl, updated.stored_row,
    Memo.refreshed_touched now fields old, updated.rows⟩

/-- A memo that gets another title gets the current time with it, and keeps that of its
creation. -/
theorem Reachable.refreshed_title :
    let fresh := ((toDatabase .empty).setUp .basic).state
    let last := fresh.after [((⟨0, 0⟩ : Instant),
        .insert (.user { name := some "a", code := some "A" })),
      (⟨1, 0⟩, .insert (.memo { userId := some 1, title := some "t", content := some "c" }))]
    let reply := last.handle ⟨5, 0⟩ (.save 1 (.memo { title := some "u" }))
    let old : Memo := ⟨1, .filled 1, .filled 1, 1, "t", "c"⟩
    let final : Memo := ⟨1, .filled 1, .filled 5, 1, "u", "c"⟩
    reply.answer = .row (.memo final) ∧ reply.connection.Stores (.memo final) ∧
      Memo.Refreshed ⟨5, 0⟩ { title := some "u" } old final := by
  refine setUp_cases .basic ⟨rfl, rfl⟩ fun keepsKeys changed saved created => ?_
  intro fresh last reply old final
  have reachable : Reachable .basic last := .written _ _ (.written _ _ created rfl) rfl
  have answered : reply.answer = .row (.memo final) := by
    simp only [reply, last, fresh, final]
    cbv
  obtain ⟨db, after, other, _, storage, left, stored, -, ⟨⟩, finalStored, refreshed, -⟩ :=
    reachable.refreshed ⟨5, 0⟩ rfl answered
  obtain ⟨held, heldStorage, rows⟩ :
      ∃ db, last.storage = .database db ∧ db.memoTable.rows = [old] := ⟨_, rfl, rfl⟩
  cases storage.symm.trans heldStorage
  rw [Database.stored_memo, rows, List.mem_singleton] at stored
  exact ⟨answered, ⟨after, left, finalStored⟩, stored ▸ refreshed⟩

/-- An update of a memo over a reachable connection that sets the time of the last change and
succeeds stores this time, unless it is the stored one and something else changes. Then the
trigger takes it for a time that was not set, and fills in the current one. -/
theorem Reachable.explicit_time (reachable : Reachable variant connection) (now : Instant)
    {fields : MemoFields} (target : request.target? = some (id, .memo fields)) {instant : Instant}
    (given : fields.updatedAt = some instant) {row : Row}
    (answered : (connection.handle now request).answer = .row row) :
    ∃ db after old final, connection.storage = .database db ∧
      (connection.handle now request).connection.storage = .database after ∧
      db.Stored (.memo old) ∧ old.id = id ∧ row = .memo final ∧ after.Stored (.memo final) ∧
      (final.updatedAt = .given instant ↔
        ¬ (old.updatedAt = .given instant ∧ old.Differs (old.set fields))) ∧
      (old.updatedAt = .given instant → old.Differs (old.set fields) →
        final.updatedAt = .ofClock now) := by
  obtain ⟨db, on, sound⟩ := reachable.sound
  obtain ⟨old, after, key, rfl, left, updated⟩ := touched_of_row on sound target answered
  exact ⟨db, after, old, _, on.storage, left, updated.stored, key, rfl, updated.stored_row,
    Memo.updatedAt_touched given⟩

/-- A time that is set with another title is kept if it is not the stored one. -/
theorem Reachable.explicit_time_kept :
    let fresh := ((toDatabase .empty).setUp .basic).state
    let last := fresh.after [((⟨0, 0⟩ : Instant),
        .insert (.user { name := some "a", code := some "A" })),
      (⟨1, 0⟩, .insert (.memo { userId := some 1, title := some "t", content := some "c" }))]
    let fields : MemoFields := { updatedAt := some ⟨7, 0⟩, title := some "u" }
    let reply := last.handle ⟨5, 0⟩ (.save 1 (.memo fields))
    ∃ final, reply.answer = .row (.memo final) ∧ reply.connection.Stores (.memo final) ∧
      final.updatedAt = .given ⟨7, 0⟩ := by
  refine setUp_cases .basic ⟨rfl, rfl⟩ fun keepsKeys changed saved created => ?_
  intro fresh last fields reply
  have reachable : Reachable .basic last := .written _ _ (.written _ _ created rfl) rfl
  have answered :
      reply.answer = .row (.memo ⟨1, .filled 1, .given ⟨7, 0⟩, 1, "u", "c"⟩) := by
    simp only [reply, last, fresh, fields]
    cbv
  obtain ⟨db, after, old, final, storage, left, stored, -, same, finalStored, kept, -⟩ :=
    reachable.explicit_time ⟨5, 0⟩ rfl rfl answered
  obtain ⟨held, heldStorage, rows⟩ : ∃ db, last.storage = .database db ∧
      db.memoTable.rows = [⟨1, .filled 1, .filled 1, 1, "t", "c"⟩] := ⟨_, rfl, rfl⟩
  cases storage.symm.trans heldStorage
  rw [Database.stored_memo, rows, List.mem_singleton] at stored
  refine ⟨final, same ▸ answered, ⟨after, left, finalStored⟩, kept.mpr fun both => ?_⟩
  rw [stored] at both
  cases both.1

/-- A time that is set to the stored one together with another title is lost. -/
theorem Reachable.explicit_time_lost :
    let fresh := ((toDatabase .empty).setUp .basic).state
    let last := fresh.after [((⟨0, 0⟩ : Instant),
        .insert (.user { name := some "a", code := some "A" })),
      (⟨1, 0⟩, .insert (.memo {
        updatedAt := some ⟨7, 0⟩, userId := some 1, title := some "t", content := some "c" }))]
    let fields : MemoFields := { updatedAt := some ⟨7, 0⟩, title := some "u" }
    let reply := last.handle ⟨9, 0⟩ (.save 1 (.memo fields))
    Reachable .basic last ∧ ∃ final, reply.answer = .row (.memo final) ∧
      reply.connection.Stores (.memo final) ∧ final.updatedAt ≠ .given ⟨7, 0⟩ := by
  refine setUp_cases .basic ⟨rfl, rfl⟩ fun keepsKeys changed saved created => ?_
  intro fresh last fields reply
  have reachable : Reachable .basic last := .written _ _ (.written _ _ created rfl) rfl
  have answered : reply.answer = .row (.memo ⟨1, .filled 1, .filled 9, 1, "u", "c"⟩) := by
    simp only [reply, last, fresh, fields]
    cbv
  obtain ⟨db, on, sound⟩ := reachable.sound
  obtain ⟨old, after, -, -, left, updated⟩ := touched_of_row on sound rfl answered
  refine ⟨reachable, _, answered, ⟨after, left, updated.stored_row⟩, ?_⟩
  intro impossible
  cases impossible

end Connection

end MemoStore.Store
