import MemoStore.Proofs.Store.Keys
import MemoStore.Proofs.Store.Readings

/-!
# What a write may break

The rules that a written row may break, in the order in which they are checked, each in terms
of the row as it would be stored and of the stored rows. `Decided` says that the first broken
rule decides a result, which can be shown one demand of the engine at a time.
-/

namespace MemoStore.Store

open MemoStore.Record (Entity Fields)
open MemoStore.Schema (Variant)
open MemoStore.Time (Instant)

/-- A rule that a written row may break. -/
inductive Breach where
  /-- a required column has no value -/
  | value
  /-- a tag is neither official without an owner nor personal with one -/
  | owner
  /-- the key that a new row brings is stored already -/
  | key
  /-- another user has the code -/
  | code
  /-- another tag of the owner has the name -/
  | name
  /-- a foreign key names no stored row -/
  | reference
  deriving DecidableEq

/-- The rules in the order in which they are checked. -/
def Breach.order : List Breach :=
  [.value, .owner, .key, .code, .name, .reference]

/-- The keys of other rows that a row names. -/
def Row.references : Row → List (Entity × Int)
  | .user _ => []
  | .memo row => [(.user, row.userId)]
  | .tag row => row.userId.toList.map fun owner => (.user, owner)
  | .attachment row => [(.memo, row.memoId), (.tag, row.tagId)]

/-- Whether a row of an entity with a key is stored. -/
def Database.StoresKey (db : Database) (entity : Entity) (key : Int) : Prop :=
  ∃ row, db.Stored row ∧ row.entity = entity ∧ row.key = key

namespace Database

variable {db : Database} {entity : Entity} {key : Int}

/-- A key is stored when a row of its table has it. -/
theorem storesKey_iff :
    db.StoresKey entity key ↔ ∃ row ∈ (db.rows? entity).getD [], row.key = key := by
  constructor
  · rintro ⟨row, stored, rfl, same⟩
    exact ⟨row, stored, same⟩
  · rintro ⟨row, member, same⟩
    have belongs := entity_of_mem member
    exact ⟨row, by rwa [Stored, belongs], belongs, same⟩

/-- For users the stored keys are those of their table. -/
theorem storesKey_user : db.StoresKey .user key ↔ db.userTable.Stores key := by
  cases stored : db.users <;>
    simp [storesKey_iff, rows?, userTable, Table.Stores, stored, Row.key, Keyed.key]

/-- For memos the stored keys are those of their table. -/
theorem storesKey_memo : db.StoresKey .memo key ↔ db.memoTable.Stores key := by
  cases stored : db.memos <;>
    simp [storesKey_iff, rows?, memoTable, Table.Stores, stored, Row.key, Keyed.key]

/-- For tags the stored keys are those of their table. -/
theorem storesKey_tag : db.StoresKey .tag key ↔ db.tagTable.Stores key := by
  cases stored : db.tags <;>
    simp [storesKey_iff, rows?, tagTable, Table.Stores, stored, Row.key, Keyed.key]

/-- For attachments the stored keys are those of their table. -/
theorem storesKey_attachment :
    db.StoresKey .attachment key ↔ db.attachmentTable.Stores key := by
  cases stored : db.attachments <;>
    simp [storesKey_iff, rows?, attachmentTable, Table.Stores, stored, Row.key, Keyed.key]

end Database

/-- A write that is to be decided. -/
structure Trial where
  /-- the row as it would be stored -/
  row : Row
  /-- the required columns without a value -/
  lacking : List String := []
  /-- the key that a new row brings -/
  key : Option Int := none
  /-- whether the engine gives a new row its key -/
  assigned : Bool := false

namespace Trial

/-- Whether a write breaks a rule. -/
def Breaks (trial : Trial) (variant : Variant) (db : Database) : Breach → Prop
  | .value => trial.lacking ≠ []
  | .owner => ∃ tag, trial.row = .tag tag ∧
      ¬ ((tag.isOfficial = true ∧ tag.userId = none) ∨
        (tag.isOfficial = false ∧ ∃ owner, tag.userId = some owner))
  | .key => ∃ key, trial.key = some key ∧ db.StoresKey trial.row.entity key
  | .code => ∃ user other, trial.row = .user user ∧ db.Stored (.user other) ∧
      other.id ≠ user.id ∧ other.code = user.code
  | .name => variant = .uniqueTagName ∧ ∃ tag other owner, trial.row = .tag tag ∧
      db.Stored (.tag other) ∧ other.id ≠ tag.id ∧ other.name = tag.name ∧
      other.isOfficial = tag.isOfficial ∧ tag.userId = some owner ∧ other.userId = some owner
  | .reference => ∃ entity key, (entity, key) ∈ trial.row.references ∧
      ¬ db.StoresKey entity key

/-- How the engine refuses a write that breaks a rule. -/
def refusal (trial : Trial) : Breach → Refusal
  | .value => .missingValue trial.row.entity (trial.lacking.headD "")
  | .owner => .checkFailed Schema.tagOwnerCheck
  | .key => .duplicateKey trial.row.entity
  | .code => .duplicate .user ["code"]
  | .name => nameTaken
  | .reference => .danglingReference

/-- A column if it is left without a value. -/
def lack {α : Type} (column : String) (given : Option α) : List String :=
  if given.isNone then [column] else []

/-- The insertion of a row. A flag that is not given is false and an owner that is not given
is none. What stands for a required column without a value does not matter. -/
def insertion (db : Database) (now : Instant) : Fields → Trial
  | .user fields => {
      row := .user ⟨fields.id.getD db.userTable.nextKey, fields.name.getD "", fields.code.getD ""⟩
      lacking := lack "name" fields.name ++ lack "code" fields.code
      key := fields.id
      assigned := fields.id.isNone }
  | .memo fields => {
      row := .memo {
        id := fields.id.getD db.memoTable.nextKey
        createdAt := (fields.createdAt.map .given).getD (.ofClock now)
        updatedAt := (fields.updatedAt.map .given).getD (.ofClock now)
        userId := fields.userId.getD 0
        title := fields.title.getD ""
        content := fields.content.getD "" }
      lacking := lack "user_id" fields.userId ++ lack "title" fields.title ++
        lack "content" fields.content
      key := fields.id
      assigned := fields.id.isNone }
  | .tag fields => {
      row := .tag ⟨fields.id.getD db.tagTable.nextKey, fields.name.getD "",
        fields.isOfficial.getD false, fields.userId.join⟩
      lacking := lack "name" fields.name
      key := fields.id
      assigned := fields.id.isNone }
  | .attachment fields => {
      row := .attachment ⟨fields.id.getD db.attachmentTable.nextKey, fields.memoId.getD 0,
        fields.tagId.getD 0⟩
      lacking := lack "memo_id" fields.memoId ++ lack "tag_id" fields.tagId
      key := fields.id
      assigned := fields.id.isNone }

/-- The update of a stored row. -/
def change (now : Instant) : Row → Fields → Trial
  | .user old, .user fields => { row := .user (old.set fields) }
  | .memo old, .memo fields => { row := .memo (touched now old (old.set fields)) }
  | .tag old, .tag fields => { row := .tag (old.set fields) }
  | .attachment old, .attachment fields => { row := .attachment (old.set fields) }
  | old, _ => { row := old }

variable {trial : Trial} {variant : Variant} {db : Database} {now : Instant} {old : Row}
  {fields : Fields}

/-- An update leaves no required column without a value and brings no key. -/
theorem change_eq : change now old fields = { row := (change now old fields).row } := by
  cases old <;> cases fields <;> rfl

/-- A changed row stays in its table. -/
theorem change_entity : (change now old fields).row.entity = old.entity := by
  cases old <;> cases fields <;> rfl

/-- A changed row keeps its key. -/
theorem change_rowKey : (change now old fields).row.key = old.key := by
  cases old <;> cases fields <;> first | rfl | exact touched_keys.1

/-- A column other than the key is no change exactly if it is not set. -/
theorem assign_iff {α : Type} {name : String} {value : α → Record.Value} {given : Option α} :
    (∀ column set, (column, set) ∈ Record.assign name value given → column = "id") ↔
      (name ≠ "id" → given = none) := by
  cases given <;> simp [Record.assign]

/-- A row is as it was if no column of it is changed. -/
theorem change_row (same : fields.changes = []) : (change now old fields).row = old := by
  cases fields with
  | user fields =>
      have unset : fields.name = none ∧ fields.code = none := by
        simpa [Fields.changes, Fields.assignments, assign_iff, Entity.key] using same
      cases old <;> simp [change, User.set, unset]
  | memo fields =>
      have unset : fields.createdAt = none ∧ fields.updatedAt = none ∧ fields.userId = none ∧
          fields.title = none ∧ fields.content = none := by
        simpa [Fields.changes, Fields.assignments, assign_iff, Entity.key] using same
      cases old <;> simp [change, Memo.set, touched, touchFires, unset]
  | tag fields =>
      have unset : fields.name = none ∧ fields.isOfficial = none ∧ fields.userId = none := by
        simpa [Fields.changes, Fields.assignments, assign_iff, Entity.key] using same
      cases old <;> simp [change, Tag.set, unset]
  | attachment fields =>
      have unset : fields.memoId = none ∧ fields.tagId = none := by
        simpa [Fields.changes, Fields.assignments, assign_iff, Entity.key] using same
      cases old <;> simp [change, Attachment.set, unset]

/-! ## What the engine demands -/

open Database

/-- A required column without a value is refused by the name of the first one. -/
theorem lacks {column : String} (lacking : trial.lacking.head? = some column) :
    trial.Breaks variant db .value ∧
      trial.refusal .value = .missingValue trial.row.entity column := by
  obtain ⟨others, lacking⟩ := List.head?_eq_some_iff.mp lacking
  simp [Breaks, refusal, lacking]

/-- A row that lacks no value breaks no rule about values. -/
theorem keeps_value (lacking : trial.lacking = []) : ¬ trial.Breaks variant db .value := by
  simp [Breaks, lacking]

/-- The check of a tag's scope accepts exactly the tags that keep the rule of owners. -/
theorem keeps_owner {tag : Tag} (row : trial.row = .tag tag) :
    ownerRule tag.isOfficial tag.userId = true ↔ ¬ trial.Breaks variant db .owner := by
  simp only [Breaks, row, ownerRule_iff, Row.tag.injEq, exists_eq_left', not_not]

/-- The engine accepts exactly the keys that no stored row has. -/
theorem keeps_key {α : Type} [Keyed α] {table : Table α} (bounded : table.Bounded)
    (same : ∀ key, db.StoresKey trial.row.entity key ↔ table.Stores key) :
    (!table.holds (trial.key.getD table.nextKey)) = true ↔ ¬ trial.Breaks variant db .key := by
  simp only [bounded.new_iff, Breaks, same]

/-- The index of codes accepts exactly the users whose code nobody else has. -/
theorem keeps_code {user : User} (row : trial.row = .user user) :
    (!db.userTable.rows.any fun other => other.id != user.id && other.code == user.code) = true ↔
      ¬ trial.Breaks variant db .code := by
  simp [Breaks, row, stored_user]

/-- The index of tag names accepts exactly the tags whose name is free in their scope, and without
the index all tags. -/
theorem keeps_name {tag : Tag} (row : trial.row = .tag tag)
    (index : db.uniqueTagNames = variant.hasTagNameIndex) :
    (!(db.uniqueTagNames && db.tagTable.rows.any fun other =>
      other.id != tag.id && sameName tag other)) = true ↔ ¬ trial.Breaks variant db .name := by
  have indexed : db.uniqueTagNames = true ↔ variant = .uniqueTagName := by
    rw [index]
    cases variant <;> simp [Variant.hasTagNameIndex]
  rw [Bool.not_eq_true', ← Bool.not_eq_true, Bool.and_eq_true, indexed, List.any_eq_true]
  refine not_congr (and_congr_right fun _ => ?_)
  simp only [row, Row.tag.injEq, stored_tag, Bool.and_eq_true, bne_iff_ne, sameName_iff]
  constructor
  · rintro ⟨other, member, different, name, flag, owner, owned⟩
    obtain ⟨id, given⟩ := Option.ne_none_iff_exists'.mp owned
    exact ⟨tag, other, id, rfl, member, different, name.symm, flag.symm, given, owner ▸ given⟩
  · rintro ⟨_, other, id, rfl, member, different, name, flag, given, owned⟩
    exact ⟨other, member, different, name.symm, flag.symm, given.trans owned.symm, by simp [given]⟩

/-- A row keeps the rule of references when all that it refers to is stored. -/
theorem not_breaks_reference : ¬ trial.Breaks variant db .reference ↔
    ∀ reference ∈ trial.row.references, db.StoresKey reference.1 reference.2 := by
  simp only [Breaks, not_exists, not_and, not_not, Prod.forall]

/-- The foreign key of memos accepts exactly the memos of stored users. -/
theorem keeps_memoReference {memo : Memo} (row : trial.row = .memo memo) :
    db.holdsUser memo.userId = true ↔ ¬ trial.Breaks variant db .reference := by
  simp [not_breaks_reference, row, Row.references, storesKey_user, holdsUser_iff]

/-- The foreign key of tags accepts exactly the tags without an owner and those of stored users. -/
theorem keeps_tagReference {tag : Tag} (row : trial.row = .tag tag) :
    tag.userId.all db.holdsUser = true ↔ ¬ trial.Breaks variant db .reference := by
  cases owner : tag.userId <;>
    simp [not_breaks_reference, row, Row.references, owner, storesKey_user, holdsUser_iff]

/-- The foreign keys of attachments accept exactly those of a stored memo and a stored tag. -/
theorem keeps_attachmentReferences {attachment : Attachment}
    (row : trial.row = .attachment attachment) :
    (db.holdsMemo attachment.memoId && db.holdsTag attachment.tagId) = true ↔
      ¬ trial.Breaks variant db .reference := by
  simp [not_breaks_reference, row, Row.references, storesKey_memo, storesKey_tag, holdsMemo_iff,
    holdsTag_iff]

/-- No stored row breaks a rule. -/
theorem not_breaks (sound : db.Sound variant) {row : Row} (stored : db.Stored row)
    (breach : Breach) : ¬ Breaks { row := row } variant db breach := by
  cases breach with
  | value => exact keeps_value rfl
  | owner =>
      rintro ⟨tag, rfl, broken⟩
      exact broken (ownerRule_iff.mp (sound.tagRule tag (stored_tag.mp stored)))
  | key =>
      rintro ⟨key, brought, -⟩
      cases brought
  | code =>
      rintro ⟨user, other, rfl, otherStored, different, same⟩
      have symmetric : Std.Symm fun first second : User => first.code ≠ second.code :=
        ⟨fun _ _ => Ne.symm⟩
      exact sound.codes.forall (stored_user.mp otherStored) (stored_user.mp stored)
        (fun equal => different (congrArg User.id equal)) same
  | name =>
      rintro ⟨unique, tag, other, owner, rfl, otherStored, different, name, flag, owned, otherOwned⟩
      have symmetric : Std.Symm fun first second : Tag => sameName first second = false :=
        ⟨fun first second apart => (sameName_comm second first).trans apart⟩
      have index : db.uniqueTagNames = true := by
        rw [sound.index, unique]
        rfl
      have apart := (sound.tagNames index).forall (stored_tag.mp otherStored) (stored_tag.mp stored)
        (fun equal => different (congrArg Tag.id equal))
      have taken : sameName other tag = true :=
        sameName_iff.mpr ⟨name, flag, otherOwned.trans owned.symm, by simp [otherOwned]⟩
      cases taken.symm.trans apart
  | reference =>
      cases row with
      | user user => simp [not_breaks_reference, Row.references]
      | memo memo =>
          have owned := sound.memoOwners memo (stored_memo.mp stored)
          exact (keeps_memoReference rfl).mp (holdsUser_iff.mpr owned)
      | tag tag =>
          have owned := sound.tagOwners tag (stored_tag.mp stored)
          refine (keeps_tagReference rfl).mp ?_
          simpa only [Option.all_eq_true, holdsUser_iff] using owned
      | attachment attachment =>
          have member := stored_attachment.mp stored
          refine (keeps_attachmentReferences rfl).mp ?_
          rw [Bool.and_eq_true, holdsMemo_iff, holdsTag_iff]
          exact ⟨sound.attachedMemos attachment member, sound.attachedTags attachment member⟩

end Trial

/-- Whether the first broken rule of a list decides a result: it fails with the error of that
rule, and succeeds if none is broken. -/
def Decided {ρ ε α : Type} (breaks : ρ → Prop) (error : ρ → ε) (result : Except ε α)
    (accepts : α → Prop) : List ρ → Prop
  | [] => ∃ value, result = .ok value ∧ accepts value
  | breach :: rest =>
    (breaks breach → result = .error (error breach)) ∧
      (¬ breaks breach → Decided breaks error result accepts rest)

namespace Decided

variable {ρ σ ε δ α β : Type} {breaks : ρ → Prop} {error : ρ → ε} {result : Except ε α}
  {accepts : α → Prop} {breach : ρ} {before rest order : List ρ}

/-- A rule that is not broken decides nothing. -/
theorem pass (kept : ¬ breaks breach) (later : Decided breaks error result accepts rest) :
    Decided breaks error result accepts (breach :: rest) :=
  ⟨fun broken => absurd broken kept, fun _ => later⟩

/-- A rule that is broken decides the result. -/
theorem fail (broken : breaks breach) (failed : result = .error (error breach)) :
    Decided breaks error result accepts (breach :: rest) :=
  ⟨fun _ => failed, fun kept => absurd broken kept⟩

/-- A result that is accepted while no rule is broken is decided. -/
theorem of_ok {value : α} (kept : ∀ breach, ¬ breaks breach) (succeeded : result = .ok value)
    (accepted : accepts value) : Decided breaks error result accepts order := by
  induction order with
  | nil => exact ⟨value, succeeded, accepted⟩
  | cons breach rest inductionHypothesis => exact pass (kept breach) inductionHypothesis

/-- A result that follows a decided one is decided by the same rules, under the names that `rule`
gives them, and behind them by the rules that are left if the first result succeeds. -/
theorem followed (decided : Decided breaks error result accepts order) {rule : ρ → σ}
    {breaks' : σ → Prop} {error' : σ → δ} {result' : Except δ β} {accepts' : β → Prop}
    {behind : List σ} (same : ∀ breach, breaks' (rule breach) ↔ breaks breach)
    (failed : ∀ breach, breaks breach → result = .error (error breach) →
      result' = .error (error' (rule breach)))
    (succeeded : ∀ value, result = .ok value → accepts value →
      Decided breaks' error' result' accepts' behind) :
    Decided breaks' error' result' accepts' (order.map rule ++ behind) := by
  induction order with
  | nil =>
      obtain ⟨value, found, accepted⟩ := decided
      exact succeeded value found accepted
  | cons breach rest inductionHypothesis =>
      refine ⟨fun broken => ?_, fun kept => ?_⟩
      · have first := (same breach).mp broken
        exact failed breach first (decided.1 first)
      · exact inductionHypothesis (decided.2 fun broken => kept ((same breach).mpr broken))

/-- What is made of a decided result is decided. -/
theorem map {accepts' : β → Prop} {f : α → β}
    (decided : Decided breaks error result accepts order)
    (accepted : ∀ value, accepts value → accepts' (f value)) :
    Decided breaks error (result.map f) accepts' order := by
  induction order with
  | nil =>
      obtain ⟨value, rfl, accepts⟩ := decided
      exact ⟨f value, rfl, accepted value accepts⟩
  | cons breach rest inductionHypothesis =>
      refine ⟨fun broken => ?_, fun kept => inductionHypothesis (decided.2 kept)⟩
      rw [decided.1 broken]
      rfl

/-- A decided result succeeds if no rule is broken. -/
theorem ok (decided : Decided breaks error result accepts order)
    (kept : ∀ breach ∈ order, ¬ breaks breach) : ∃ value, result = .ok value ∧ accepts value := by
  induction order with
  | nil => exact decided
  | cons breach rest inductionHypothesis =>
      obtain ⟨first, others⟩ := List.forall_mem_cons.mp kept
      exact inductionHypothesis (decided.2 first) others

/-- Rules that are not broken decide nothing. -/
theorem skip (decided : Decided breaks error result accepts (before ++ rest))
    (kept : ∀ breach ∈ before, ¬ breaks breach) : Decided breaks error result accepts rest := by
  induction before with
  | nil => exact decided
  | cons breach before inductionHypothesis =>
      obtain ⟨first, others⟩ := List.forall_mem_cons.mp kept
      exact inductionHypothesis (decided.2 first) others

/-- A decided result that fails, fails with the error of a broken rule. -/
theorem broken (decided : Decided breaks error result accepts order) {failure : ε}
    (failed : result = .error failure) : ∃ breach, breaks breach ∧ failure = error breach := by
  induction order with
  | nil =>
      obtain ⟨value, succeeded, -⟩ := decided
      cases failed.symm.trans succeeded
  | cons breach rest inductionHypothesis =>
      by_cases first : breaks breach
      · exact ⟨breach, first, Except.error.inj (failed.symm.trans (decided.1 first))⟩
      · exact inductionHypothesis (decided.2 first)

/-- A decided result that succeeds is accepted, and no rule is broken. -/
theorem kept (decided : Decided breaks error result accepts order) {value : α}
    (succeeded : result = .ok value) : (∀ breach ∈ order, ¬ breaks breach) ∧ accepts value := by
  induction order with
  | nil =>
      obtain ⟨other, found, accepted⟩ := decided
      cases succeeded.symm.trans found
      exact ⟨fun breach member => absurd member List.not_mem_nil, accepted⟩
  | cons breach rest inductionHypothesis =>
      by_cases first : breaks breach
      · cases succeeded.symm.trans (decided.1 first)
      · obtain ⟨others, accepted⟩ := inductionHypothesis (decided.2 first)
        exact ⟨List.forall_mem_cons.mpr ⟨first, others⟩, accepted⟩

/-- A required column that breaks a rule without a value decides for that rule. -/
theorem required {error : ρ → Refusal} {accepts : β → Prop} {entity : Entity}
    {column : String} {given : Option α} {next : α → Except Refusal β}
    (absent : given = none → breaks breach ∧ error breach = .missingValue entity column)
    (present : ∀ value, given = some value →
      Decided breaks error (next value) accepts (breach :: rest)) :
    Decided breaks error (Store.required entity column given >>= next) accepts
      (breach :: rest) := by
  cases given with
  | none =>
      obtain ⟨broken, same⟩ := absent rfl
      exact fail broken (congrArg Except.error same.symm)
  | some value => exact present value rfl

/-- A demand that holds exactly if a rule is not broken decides for that rule. -/
theorem demand {error : ρ → Refusal} {next : Except Refusal α} {condition : Bool}
    (same : condition = true ↔ ¬ breaks breach)
    (later : condition = true → Decided breaks error next accepts rest) :
    Decided breaks error (Store.demand condition (error breach) >>= fun _ => next) accepts
      (breach :: rest) := by
  cases condition with
  | true => exact pass (same.mp rfl) (later rfl)
  | false =>
      have broken : breaks breach := by
        by_contra kept
        cases same.mpr kept
      exact fail broken rfl

end Decided

end MemoStore.Store
