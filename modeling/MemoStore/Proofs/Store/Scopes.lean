import MemoStore.Proofs.Store.Verdicts

/-!
# Scopes and the owner rule

The owner rule of tags is there twice: as a check that the engine evaluates over two columns, and as
the scope that a client reads from these columns. The check accepts exactly the pairs that are the
columns of a scope, so in every reachable database each stored tag has one, what is built in a scope
is never rejected by the check, and every other write of a tag is rejected exactly if the pair of
columns that it leads to has none: `Reachable.scopes`.
-/

namespace MemoStore.Record.TagFields

/-- The columns that a tag is built from, with the name and the scope that are asked for. -/
inductive Builds : TagFields → String → Scope → Prop where
  | inScope (name : String) (scope : Scope) : Builds (.inScope name scope) name scope
  | official (name : String) : Builds (.official name) name .official
  | personal (name : String) (owner : Int) : Builds (.personal name owner) name (.personal owner)

variable {fields : TagFields} {name : String} {scope : Scope}

/-- Every way to build a tag sets its name and its scope. -/
theorem Builds.eq (builds : fields.Builds name scope) : fields = .inScope name scope := by
  cases builds <;> rfl

end MemoStore.Record.TagFields

namespace MemoStore.Store

open MemoStore.Record (Fields Scope TagFields)
open MemoStore.Schema (Variant)
open MemoStore.Time (Instant)

/-- The owner rule holds of the columns of a scope and of no other. -/
theorem isSome_ofColumns? (isOfficial : Bool) (userId : Option Int) :
    (Scope.ofColumns? isOfficial userId).isSome = ownerRule isOfficial userId := by
  cases isOfficial <;> cases userId <;> rfl

/-! ## The owner rule among the rules -/

namespace Trial

variable {trial : Trial} {variant : Variant} {db : Database} {tag : Tag}

/-- A tag breaks the owner rule exactly if it has no scope. -/
theorem breaks_owner_iff (row : trial.row = .tag tag) :
    trial.Breaks variant db .owner ↔ tag.scope? = none := by
  have kept : ownerRule tag.isOfficial tag.userId = true ↔ ¬ trial.Breaks variant db .owner :=
    keeps_owner row
  rw [← isSome_ofColumns?, ← Tag.scope?] at kept
  rw [← Option.not_isSome_iff_eq_none, kept, not_not]

/-- Only the owner rule is reported as a failed check. -/
theorem failure_eq_checkViolation {obstacle : Obstacle} {constraint : String}
    (same : .checkViolation constraint = trial.failure obstacle) : obstacle = .breach .owner := by
  cases obstacle with
  | key => cases same
  | breach breach =>
      cases breach with
      | owner => rfl
      | value | key | code | name | reference => cases same

/-- The name is the one column that the insertion of a tag needs. -/
theorem insertion_filled {now : Instant} {fields : TagFields} (named : fields.name ≠ none) :
    (insertion db now (.tag fields)).lacking = [] := by
  simp [insertion, lack, named]

variable {α : Type} {answer : Row → α} {result : Except Failure (Connection × α)}

/-- A tag with a scope is never rejected by a check. -/
theorem Verdict.not_checkViolation (verdict : Verdict variant db trial answer result)
    (row : trial.row = .tag tag) {scope : Scope} (found : tag.scope? = some scope)
    (constraint : String) : result ≠ .error (.checkViolation constraint) := by
  intro rejected
  obtain ⟨obstacle, met, same⟩ := verdict.decided.broken rejected
  obtain rfl := failure_eq_checkViolation same
  have broken : trial.Breaks variant db .owner := met
  rw [breaks_owner_iff row, found] at broken
  cases broken

/-- A tag with a name is rejected by the owner rule exactly if it has no scope. -/
theorem Verdict.checkViolation_iff (verdict : Verdict variant db trial answer result)
    (row : trial.row = .tag tag) (named : trial.lacking = []) :
    result = .error (.checkViolation Schema.tagOwnerCheck) ↔ tag.scope? = none := by
  constructor
  · intro rejected
    cases scope : tag.scope? with
    | none => rfl
    | some scope => exact absurd rejected (verdict.not_checkViolation row scope _)
  · intro unscoped
    have kept : ∀ rule ∈ [Breach.value], ¬ trial.Breaks variant db rule :=
      List.forall_mem_singleton.mpr (keeps_value named)
    exact verdict.reported kept ((breaks_owner_iff row).mpr unscoped) rfl

end Trial

/-! ## Requests -/

namespace Connection

open Trial

variable {variant : Variant} {connection : Connection} {db : Database} {now : Instant}

/-- How scopes and the owner rule agree over a connection to a database. -/
structure Scoped (connection : Connection) (db : Database) (now : Instant) : Prop where
  /-- What is built in a scope is not rejected by a check, and it is read back in that scope. -/
  built : ∀ fields name scope, TagFields.Builds fields name scope →
    (∀ constraint, connection.insert now (.tag fields) ≠ .error (.checkViolation constraint)) ∧
    ∀ next row, connection.insert now (.tag fields) = .ok (next, row) →
      ∃ tag, row = .tag tag ∧ tag.name = name ∧ tag.scope? = some scope ∧
        next.get .tag tag.id = .ok (some row)
  /-- A stored tag has a scope, and the scope has the columns of the tag. -/
  stored : ∀ tag, db.Stored (.tag tag) →
    ∃ scope, tag.scope? = some scope ∧ scope.isOfficial = tag.isOfficial ∧ scope.owner = tag.userId
  /-- A tag with a name is rejected exactly if the columns that are inserted have no scope. -/
  inserted : ∀ fields : TagFields, fields.name ≠ none →
    (connection.insert now (.tag fields) = .error (.checkViolation Schema.tagOwnerCheck) ↔
      Scope.ofColumns? (fields.isOfficial.getD false) fields.userId.join = none)
  /-- An update of a stored tag is rejected exactly if the columns that it would have after it have
  no scope. -/
  saved : ∀ (old : Tag) (fields : TagFields), db.Stored (.tag old) →
    (connection.save now old.id (.tag fields) = .error (.checkViolation Schema.tagOwnerCheck) ↔
      Scope.ofColumns? (fields.isOfficial.getD old.isOfficial) (fields.userId.getD old.userId) =
        none)
  /-- An update that reads a stored tag first, that one or the one whose key is among the columns,
  is rejected in the same case. -/
  updated : ∀ (loaded old : Tag) (fields : TagFields), db.Stored (.tag loaded) →
    db.Stored (.tag old) → old.id = fields.id.getD loaded.id →
      (connection.update now loaded.id (.tag fields) =
          .error (.checkViolation Schema.tagOwnerCheck) ↔
        Scope.ofColumns? (fields.isOfficial.getD old.isOfficial) (fields.userId.getD old.userId) =
          none)

/-- What is built in a scope is read back in that scope. -/
theorem insert_built (reachable : Reachable variant connection) {fields : TagFields} {name : String}
    {scope : Scope} (builds : fields.Builds name scope) {next : Connection} {row : Row}
    (inserted : connection.insert now (.tag fields) = .ok (next, row)) :
    ∃ tag, row = .tag tag ∧ tag.name = name ∧ tag.scope? = some scope ∧
      next.get .tag tag.id = .ok (some row) := by
  obtain rfl := builds.eq
  obtain ⟨db, on, sound, bounded⟩ := reachable.keys
  let fields := TagFields.inScope name scope
  have verdict : Verdict variant db (.insertion db now (.tag fields)) id
      (connection.insert now (.tag fields)) :=
    insert_verdict on sound bounded _
  obtain ⟨-, rfl, after, storage, stored⟩ := verdict.decided.kept inserted
  have nextReachable : Reachable variant next :=
    insert_left inserted ▸ .written now (.insert (.tag fields)) reachable rfl
  obtain ⟨later, laterOn, laterSound⟩ := nextReachable.sound
  cases storage.symm.trans laterOn.storage
  exact ⟨_, rfl, rfl, Scope.ofColumns?_columns scope, get_on laterOn laterSound stored⟩

/-- A stored tag has the scope that its columns are those of. -/
theorem stored_scope (sound : db.Sound variant) {tag : Tag} (stored : db.Stored (.tag tag)) :
    ∃ scope, tag.scope? = some scope ∧ scope.isOfficial = tag.isOfficial ∧
      scope.owner = tag.userId := by
  have kept := not_breaks sound stored .owner
  rw [breaks_owner_iff rfl] at kept
  obtain ⟨scope, found⟩ := Option.ne_none_iff_exists'.mp kept
  obtain ⟨flag, owner⟩ := Scope.ofColumns?_eq_some_iff.mp found
  exact ⟨scope, found, flag.symm, owner.symm⟩

/-- In every reachable database, the scopes that tags are built in and read in are exactly the pairs
of columns that the owner rule accepts. -/
theorem Reachable.scopes (reachable : Reachable variant connection) (now : Instant) :
    ∃ db, connection.storage = .database db ∧ connection.Scoped db now := by
  obtain ⟨db, on, sound, bounded⟩ := reachable.keys
  refine ⟨db, on.storage, ?_⟩
  have inserts (fields : TagFields) : Verdict variant db (.insertion db now (.tag fields)) id
      (connection.insert now (.tag fields)) :=
    insert_verdict on sound bounded _
  have saves (old : Tag) (fields : TagFields) (stored : db.Stored (.tag old)) :
      Verdict variant db (.change now (.tag old) (.tag fields)) id
        (connection.save now old.id (.tag fields)) :=
    save_verdict on sound stored rfl
  have updates (loaded old : Tag) (fields : TagFields) (loadedStored : db.Stored (.tag loaded))
      (stored : db.Stored (.tag old)) (target : old.id = fields.id.getD loaded.id) :
      Verdict variant db (.change now (.tag old) (.tag fields)) some
        (connection.update now loaded.id (.tag fields)) :=
    update_verdict on sound loadedStored stored rfl rfl target
  exact {
    built := fun fields name scope builds => by
      refine ⟨?_, fun next row => insert_built reachable builds⟩
      obtain rfl := builds.eq
      exact (inserts _).not_checkViolation rfl (Scope.ofColumns?_columns scope)
    stored := fun tag => stored_scope sound
    inserted := fun fields named =>
      (inserts fields).checkViolation_iff rfl (insertion_filled named)
    saved := fun old fields stored => (saves old fields stored).checkViolation_iff rfl rfl
    updated := fun loaded old fields loadedStored stored target =>
      (updates loaded old fields loadedStored stored target).checkViolation_iff rfl rfl }

/-- An official tag that is stored is not made personal without an owner, and a tag without an owner
is not personal by default. -/
theorem Reachable.scopes_unowned :
    let fresh := ((toDatabase .empty).setUp .uniqueTagName).state
    let last := (fresh.handle ⟨0, 0⟩ (.insert (.tag (.official "x")))).connection
    last.save ⟨1, 0⟩ 1 (.tag { isOfficial := some false }) =
        .error (.checkViolation "check_tag_owner") ∧
      last.insert ⟨1, 0⟩ (.tag { name := some "y" }) =
        .error (.checkViolation "check_tag_owner") := by
  refine setUp_cases .uniqueTagName ⟨rfl, rfl⟩ fun keepsKeys changed saved created => ?_
  intro fresh last
  have reachable : Reachable .uniqueTagName last := .written _ _ created rfl
  obtain ⟨db, storage, agree⟩ := reachable.scopes ⟨1, 0⟩
  have filled : ∃ db, last.storage = .database db ∧ db.Stored (.tag ⟨1, "x", true, none⟩) :=
    ⟨_, rfl, List.mem_singleton_self _⟩
  obtain ⟨other, same, stored⟩ := filled
  cases storage.symm.trans same
  exact ⟨(agree.saved _ _ stored).mpr rfl, (agree.inserted _ (Option.some_ne_none _)).mpr rfl⟩

end Connection

end MemoStore.Store
