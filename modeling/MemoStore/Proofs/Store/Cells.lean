import MemoStore.Proofs.Store.Breaches

/-!
# Columns of written rows

A row seen as what its columns hold. An inserted row holds in each column the value that it was
given or the default of the column, which `insertion_cell` states; an updated row holds the value
that was set or what it held before, with the time of the last change of a memo as the one
exception, which `change_cell` states.
-/

namespace MemoStore.Store

open MemoStore.Record (Entity Fields Value assign)
open MemoStore.Time (Instant)

/-- What a column of a stored row holds. -/
inductive Cell where
  | null
  | int (value : Int)
  | text (value : String)
  | bool (value : Bool)
  | time (value : Stamp)
  deriving DecidableEq, Repr

/-- What a column holds when a value is written to it. -/
def Cell.ofValue : Value → Cell
  | .null => .null
  | .int value => .int value
  | .text value => .text value
  | .bool value => .bool value
  | .time value => .time (.given value)

/-- The columns of a row with what they hold, in declaration order. -/
def Row.cells : Row → List (String × Cell)
  | .user row => [("id", .int row.id), ("name", .text row.name), ("code", .text row.code)]
  | .memo row =>
    [("id", .int row.id), ("created_at", .time row.createdAt), ("updated_at", .time row.updatedAt),
      ("user_id", .int row.userId), ("title", .text row.title), ("content", .text row.content)]
  | .tag row =>
    [("id", .int row.id), ("name", .text row.name), ("is_official", .bool row.isOfficial),
      ("user_id", (row.userId.map Cell.int).getD .null)]
  | .attachment row =>
    [("id", .int row.id), ("memo_id", .int row.memoId), ("tag_id", .int row.tagId)]

/-- What a row holds in a column. -/
def Row.cell? (row : Row) (column : String) : Option Cell :=
  row.cells.lookup column

/-- What a write puts into a column, if it gives a value for it. -/
def given? (assignments : List (String × Value)) (column : String) : Option Cell :=
  (assignments.lookup column).map Cell.ofValue

/-- The key that the next row of a table gets if it brings none. -/
def Database.nextKey (db : Database) : Entity → Int
  | .user => db.userTable.nextKey
  | .memo => db.memoTable.nextKey
  | .tag => db.tagTable.nextKey
  | .attachment => db.attachmentTable.nextKey

/-- What a new row holds in a column that it is given no value for. The other columns are
required. -/
def Database.default? (db : Database) (now : Instant) (entity : Entity) (column : String) :
    Option Cell :=
  if column = "id" then some (.int (db.nextKey entity))
  else
    match entity with
    | .memo =>
      if column = "created_at" ∨ column = "updated_at" then some (.time (.ofClock now)) else none
    | .tag =>
      if column = "is_official" then some (.bool false)
      else if column = "user_id" then some .null
      else none
    | .user | .attachment => none

section Lookup

variable {α : Type} {name column : String} {value : α → Value} {given : Option α}
  {rest : List (String × Value)}

@[simp] theorem given?_nil : given? [] column = none := rfl

/-- An assignment gives a value to its own column only. -/
@[simp] theorem given?_assign_append :
    given? (assign name value given ++ rest) column =
      if column = name then (given.map fun a => Cell.ofValue (value a)).or (given? rest column)
      else given? rest column := by
  cases given with
  | none => simp [assign]
  | some a =>
      by_cases same : column = name
      · simp [assign, given?, same]
      · simp [assign, given?, same, List.lookup_cons, beq_eq_false_iff_ne.mpr same]

@[simp] theorem given?_assign :
    given? (assign name value given) column =
      if column = name then given.map fun a => Cell.ofValue (value a) else none := by
  rw [← List.append_nil (assign name value given), given?_assign_append]
  simp

/-- The columns that an update sets are those that are given, but for the key. -/
theorem given?_changes {fields : Fields} :
    given? fields.changes column =
      if column = "id" then none else given? fields.assignments column := by
  unfold Fields.changes given?
  induction fields.assignments with
  | nil => simp
  | cons first others inductionHypothesis =>
      obtain ⟨name, value⟩ := first
      by_cases key : name = "id"
      · by_cases same : column = "id"
        · simpa [Entity.key, key, same] using inductionHypothesis
        · simpa [Entity.key, key, same, List.lookup_cons, beq_eq_false_iff_ne.mpr same] using
            inductionHypothesis
      · by_cases same : column = name
        · simp [Entity.key, key, same]
        · simpa [Entity.key, key, List.lookup_cons, beq_eq_false_iff_ne.mpr same] using
            inductionHypothesis

end Lookup

/-! ## Rows that are written -/

/-- A time that is given is stored as it is written. -/
theorem time_getD {given : Option Instant} {kept : Stamp} :
    (given.map fun time => Cell.time (.given time)).getD (.time kept) =
      .time ((given.map .given).getD kept) := by
  cases given <;> rfl

/-- An owner that is given may be no owner. -/
theorem ofValue_owner {owner : Option Int} :
    Cell.ofValue ((owner.map Value.int).getD .null) = (owner.map Cell.int).getD .null := by
  cases owner <;> rfl

/-- A column that does not lack a value has one. -/
theorem lack_eq_nil {α : Type} {column : String} {given : Option α}
    (filled : Trial.lack column given = []) : ∃ value, given = some value := by
  cases given with
  | none => simp [Trial.lack] at filled
  | some value => exact ⟨value, rfl⟩

variable {db : Database} {now : Instant} {fields : Fields} {column : String}

/-- A row that is to be inserted holds in each column what it is given for it, or else what the
column holds by default. -/
theorem insertion_cell (filled : (Trial.insertion db now fields).lacking = [])
    (declared : column ∈ fields.entity.columns.map Record.Column.name) :
    (Trial.insertion db now fields).row.cell? column =
      (given? fields.assignments column).or (db.default? now fields.entity column) := by
  cases fields with
  | user fields =>
      simp only [Trial.insertion, List.append_eq_nil_iff] at filled
      obtain ⟨name, named⟩ := lack_eq_nil filled.1
      obtain ⟨code, coded⟩ := lack_eq_nil filled.2
      simp only [Fields.entity, Entity.columns, Entity.key, List.map_cons, List.map_nil,
        List.mem_cons, List.not_mem_nil, or_false] at declared
      rcases declared with rfl | rfl | rfl <;>
        simp [Trial.insertion, Row.cell?, Row.cells, Fields.assignments, Fields.entity,
          Database.default?, Database.nextKey, Cell.ofValue, List.lookup_cons, named, coded]
  | memo fields =>
      simp only [Trial.insertion, List.append_eq_nil_iff] at filled
      obtain ⟨owner, owned⟩ := lack_eq_nil filled.1.1
      obtain ⟨title, titled⟩ := lack_eq_nil filled.1.2
      obtain ⟨content, written⟩ := lack_eq_nil filled.2
      simp only [Fields.entity, Entity.columns, Entity.key, List.map_cons, List.map_nil,
        List.mem_cons, List.not_mem_nil, or_false] at declared
      rcases declared with rfl | rfl | rfl | rfl | rfl | rfl <;>
        simp [Trial.insertion, Row.cell?, Row.cells, Fields.assignments, Fields.entity,
          Database.default?, Database.nextKey, Cell.ofValue, List.lookup_cons, time_getD,
          owned, titled, written]
  | tag fields =>
      obtain ⟨name, named⟩ := lack_eq_nil filled
      simp only [Fields.entity, Entity.columns, Entity.key, List.map_cons, List.map_nil,
        List.mem_cons, List.not_mem_nil, or_false] at declared
      rcases declared with rfl | rfl | rfl | rfl
      · simp [Trial.insertion, Row.cell?, Row.cells, Fields.assignments, Fields.entity,
          Database.default?, Database.nextKey, Cell.ofValue]
      · simp [Trial.insertion, Row.cell?, Row.cells, Fields.assignments, Cell.ofValue,
          List.lookup_cons, named]
      · simp [Trial.insertion, Row.cell?, Row.cells, Fields.assignments, Fields.entity,
          Database.default?, Cell.ofValue, List.lookup_cons]
      · -- No owner is what the column holds by default, and it can be given as well.
        rcases owner : fields.userId with _ | _ | _ <;>
          simp [Trial.insertion, Row.cell?, Row.cells, Fields.assignments, Fields.entity,
            Database.default?, Cell.ofValue, List.lookup_cons, owner]
  | attachment fields =>
      simp only [Trial.insertion, List.append_eq_nil_iff] at filled
      obtain ⟨memo, attached⟩ := lack_eq_nil filled.1
      obtain ⟨tag, tagged⟩ := lack_eq_nil filled.2
      simp only [Fields.entity, Entity.columns, Entity.key, List.map_cons, List.map_nil,
        List.mem_cons, List.not_mem_nil, or_false] at declared
      rcases declared with rfl | rfl | rfl <;>
        simp [Trial.insertion, Row.cell?, Row.cells, Fields.assignments, Fields.entity,
          Database.default?, Database.nextKey, Cell.ofValue, List.lookup_cons, attached, tagged]

/-- The trigger changes the time of the last change only. -/
theorem touched_cell {old new : Memo} (other : column ≠ "updated_at") :
    (Row.memo (touched now old new)).cell? column = (Row.memo new).cell? column := by
  unfold touched
  split
  · simp [Row.cell?, Row.cells, List.lookup_cons, beq_eq_false_iff_ne.mpr other]
  · rfl

/-- The time of the last change is the current second if the trigger changes it. -/
theorem touched_updatedAt {old new : Memo} :
    (Row.memo (touched now old new)).cell? "updated_at" = (Row.memo new).cell? "updated_at" ∨
      (Row.memo (touched now old new)).cell? "updated_at" = some (.time (.ofClock now)) := by
  unfold touched
  split
  · exact .inr rfl
  · exact .inl rfl

/-- A memo with columns set holds in each column what was set, or else what it held before. -/
theorem memo_set_cell {old : Memo} {fields : Record.MemoFields}
    (declared : column ∈ Entity.memo.columns.map Record.Column.name) :
    (Row.memo (old.set fields)).cell? column =
      (given? (Fields.memo fields).changes column).or ((Row.memo old).cell? column) := by
  rw [given?_changes]
  simp only [Entity.columns, Entity.key, List.map_cons, List.map_nil, List.mem_cons,
    List.not_mem_nil, or_false] at declared
  rcases declared with rfl | rfl | rfl | rfl | rfl | rfl <;>
    simp [Memo.set, Row.cell?, Row.cells, Fields.assignments, Cell.ofValue, List.lookup_cons,
      time_getD]

/-- An updated row holds in each column what was set, or else what it held before, but for the
time of the last change of a memo. -/
theorem change_cell {old : Row} (belongs : old.entity = fields.entity)
    (declared : column ∈ fields.entity.columns.map Record.Column.name)
    (other : ¬ (fields.entity = .memo ∧ column = "updated_at")) :
    (Trial.change now old fields).row.cell? column =
      (given? fields.changes column).or (old.cell? column) := by
  cases old with
  | user old =>
      cases fields with
      | user fields =>
          rw [given?_changes]
          simp only [Fields.entity, Entity.columns, Entity.key, List.map_cons, List.map_nil,
            List.mem_cons, List.not_mem_nil, or_false] at declared
          rcases declared with rfl | rfl | rfl <;>
            simp [Trial.change, User.set, Row.cell?, Row.cells, Fields.assignments, Cell.ofValue,
              List.lookup_cons]
      | memo | tag | attachment => cases belongs
  | memo old =>
      cases fields with
      | memo fields =>
          have untouched : column ≠ "updated_at" := fun same => other ⟨rfl, same⟩
          exact (touched_cell untouched).trans (memo_set_cell declared)
      | user | tag | attachment => cases belongs
  | tag old =>
      cases fields with
      | tag fields =>
          rw [given?_changes]
          simp only [Fields.entity, Entity.columns, Entity.key, List.map_cons, List.map_nil,
            List.mem_cons, List.not_mem_nil, or_false] at declared
          rcases declared with rfl | rfl | rfl | rfl
          · simp [Trial.change, Tag.set, Row.cell?, Row.cells]
          · simp [Trial.change, Tag.set, Row.cell?, Row.cells, Fields.assignments, Cell.ofValue,
              List.lookup_cons]
          · simp [Trial.change, Tag.set, Row.cell?, Row.cells, Fields.assignments, Cell.ofValue,
              List.lookup_cons]
          · -- What is set may be no owner, so the two cases differ in more than a default.
            cases owner : fields.userId <;>
              simp [Trial.change, Tag.set, Row.cell?, Row.cells, Fields.assignments, ofValue_owner,
                List.lookup_cons, owner]
      | user | memo | attachment => cases belongs
  | attachment old =>
      cases fields with
      | attachment fields =>
          rw [given?_changes]
          simp only [Fields.entity, Entity.columns, Entity.key, List.map_cons, List.map_nil,
            List.mem_cons, List.not_mem_nil, or_false] at declared
          rcases declared with rfl | rfl | rfl <;>
            simp [Trial.change, Attachment.set, Row.cell?, Row.cells, Fields.assignments,
              Cell.ofValue, List.lookup_cons]
      | user | memo | tag => cases belongs

/-- An updated memo holds as the time of its last change what was set, or else what it held
before or the current second. -/
theorem change_updatedAt {old : Row} (belongs : old.entity = fields.entity)
    (memo : fields.entity = .memo) :
    (Trial.change now old fields).row.cell? "updated_at" =
        (given? fields.changes "updated_at").or (old.cell? "updated_at") ∨
      (Trial.change now old fields).row.cell? "updated_at" = some (.time (.ofClock now)) := by
  cases fields with
  | memo fields =>
      cases old with
      | memo old =>
          have set : (Row.memo (old.set fields)).cell? "updated_at" =
              (given? (Fields.memo fields).changes "updated_at").or
                ((Row.memo old).cell? "updated_at") := memo_set_cell (by decide)
          rw [← set]
          exact touched_updatedAt
      | user | tag | attachment => cases belongs
  | user | tag | attachment => cases memo

end MemoStore.Store
