import MemoStore.Proofs.Store.Frames

/-!
# Databases with the same contents

What depends on the contents of a database alone, and not on the index on tag names: what is read,
the row that an insertion would store, the rules that a row breaks, but for that of tag names, and
what statements make of the contents. `decides_alike` compares the outcome of a statement over
two databases with the same contents, of which one has the index: it is the same, unless the one
with the index refuses the name of a tag.
-/

namespace MemoStore.Store

open MemoStore.Record (Entity Fields)
open MemoStore.Schema (Variant)
open MemoStore.Time (Instant)

/-! ## Decisions by two sets of rules -/

namespace Decided

variable {ρ ε α β : Type} {breaks breaks' : ρ → Prop} {error : ρ → ε}
  {result : Except ε α} {result' : Except ε β} {accepts : α → Prop} {accepts' : β → Prop}
  {order before rest : List ρ} {odd : ρ}

/-- The rules that do not decide a result before others do, are not broken. -/
theorem reached (decided : Decided breaks error result accepts (before ++ rest))
    (later : ∀ breach ∈ before, result ≠ .error (error breach)) :
    ∀ breach ∈ before, ¬ breaks breach := by
  induction before with
  | nil => exact fun _ member => absurd member List.not_mem_nil
  | cons breach before inductionHypothesis =>
      obtain ⟨first, others⟩ := List.forall_mem_cons.mp later
      have kept : ¬ breaks breach := fun broken => first (decided.1 broken)
      exact List.forall_mem_cons.mpr ⟨kept, inductionHypothesis (decided.2 kept) others⟩

/-- Two results that are decided alike, but for one rule that only the first may break, are alike
unless that rule decides. -/
theorem alike (decided : Decided breaks error result accepts order)
    (decided' : Decided breaks' error result' accepts' order)
    (agree : ∀ breach, breach ≠ odd → (breaks breach ↔ breaks' breach)) (spared : ¬ breaks' odd)
    (undecided : result ≠ .error (error odd)) :
    (∃ failure, result = .error failure ∧ result' = .error failure) ∨
      (∃ value, result = .ok value ∧ accepts value) ∧
        ∃ value, result' = .ok value ∧ accepts' value := by
  induction order with
  | nil => exact .inr ⟨decided, decided'⟩
  | cons breach rest inductionHypothesis =>
      by_cases broken : breaks breach
      · have failed := decided.1 broken
        have other : breach ≠ odd := by
          rintro rfl
          exact undecided failed
        exact .inl ⟨_, failed, decided'.1 ((agree breach other).mp broken)⟩
      · have kept : ¬ breaks' breach := by
          by_cases other : breach = odd
          · exact other ▸ spared
          · rwa [← agree breach other]
        exact inductionHypothesis (decided.2 broken) (decided'.2 kept)

end Decided

namespace Database

/-- A table of a complete database is read. -/
theorem list_of_complete {db : Database} (complete : db.Complete) (kind : Entity) :
    ∃ rows, db.list kind = .ok rows := by
  have present : (db.rows? kind).isSome = db.has kind := by
    cases kind <;> simp [Database.rows?, has]
  rw [complete.tables kind] at present
  obtain ⟨rows, table⟩ := Option.isSome_iff_exists.mp present
  exact ⟨_, by rw [Database.list, table]⟩

/-- Related rows of a complete database are read. -/
theorem related_of_complete {db : Database} (complete : db.Complete) (source target : Entity)
    (route : Record.Route) (id : Int) : ∃ rows, db.related source target route id = .ok rows := by
  obtain ⟨targets, targetsRead⟩ := list_of_complete complete target
  obtain ⟨sources, sourcesRead⟩ := list_of_complete complete source
  unfold Database.related
  rw [targetsRead, sourcesRead]
  cases route.via with
  | none => exact ⟨_, rfl⟩
  | some via =>
      obtain ⟨middles, middlesRead⟩ := list_of_complete complete via.target
      simp only [middlesRead]
      exact ⟨_, rfl⟩

namespace SameContents

variable {db other : Database} (same : SameContents db other)

include same

/-- The tables of complete databases with the same contents. -/
theorem shared (complete : db.Complete) (otherComplete : other.Complete) :
    (∃ users, db.users = some users ∧ other.users = some users) ∧
      (∃ memos others, db.memos = some memos ∧ other.memos = some others ∧
        others.toTable = memos.toTable) ∧
      (∃ tags others, db.tags = some tags ∧ other.tags = some others ∧
        others.toTable = tags.toTable) ∧
      ∃ attachments, db.attachments = some attachments ∧ other.attachments = some attachments := by
  obtain ⟨memos, memosStored, memoTable⟩ := memos_of_has (complete.tables .memo)
  obtain ⟨others, othersStored, otherTable⟩ := memos_of_has (otherComplete.tables .memo)
  obtain ⟨tags, tagsStored, tagTable⟩ := tags_of_has (complete.tables .tag)
  obtain ⟨otherTags, otherTagsStored, otherTagTable⟩ := tags_of_has (otherComplete.tables .tag)
  refine ⟨⟨db.userTable, users_of_has (complete.tables .user), ?_⟩,
    ⟨memos, others, memosStored, othersStored, ?_⟩,
    ⟨tags, otherTags, tagsStored, otherTagsStored, ?_⟩,
    ⟨db.attachmentTable, attachments_of_has (complete.tables .attachment), ?_⟩⟩
  · rw [← same.users]
    exact users_of_has (otherComplete.tables .user)
  · rw [← otherTable, ← memoTable, same.memos]
  · rw [← otherTagTable, ← tagTable, same.tags]
  · rw [← same.attachments]
    exact attachments_of_has (otherComplete.tables .attachment)

/-! ## What is read -/

/-- The rows of a table are those of the contents. -/
theorem rows? (complete : db.Complete) (otherComplete : other.Complete) (kind : Entity) :
    other.rows? kind = db.rows? kind := by
  obtain ⟨⟨users, first, second⟩, ⟨memos, others, memosFirst, memosSecond, memoRows⟩,
    ⟨tags, otherTags, tagsFirst, tagsSecond, tagRows⟩, attachments, last, otherLast⟩ :=
    same.shared complete otherComplete
  cases kind <;> simp [Database.rows?, *]

/-- Rows are listed alike. -/
theorem list (complete : db.Complete) (otherComplete : other.Complete) :
    other.list = db.list := by
  funext kind
  simp only [Database.list, same.rows? complete otherComplete]

/-- A row is read by its key alike. -/
theorem get (complete : db.Complete) (otherComplete : other.Complete) (kind : Entity) (id : Int) :
    other.get kind id = db.get kind id := by
  simp only [Database.get, same.list complete otherComplete]

/-- Rows are counted alike. -/
theorem count (complete : db.Complete) (otherComplete : other.Complete) (kind : Entity) :
    other.count kind = db.count kind := by
  simp only [Database.count, same.list complete otherComplete]

/-- Related rows are found alike. -/
theorem related (complete : db.Complete) (otherComplete : other.Complete) (source target : Entity)
    (route : Record.Route) (id : Int) :
    other.related source target route id = db.related source target route id := by
  simp only [Database.related, same.list complete otherComplete]

/-- A row is stored in both or in neither. -/
theorem stored {row : Row} : other.Stored row ↔ db.Stored row := by
  cases row with
  | user row => rw [stored_user, stored_user, same.users]
  | memo row => rw [stored_memo, stored_memo, same.memos]
  | tag row => rw [stored_tag, stored_tag, same.tags]
  | attachment row => rw [stored_attachment, stored_attachment, same.attachments]

/-- A key is stored in both or in neither. -/
theorem storesKey {entity : Entity} {key : Int} :
    other.StoresKey entity key ↔ db.StoresKey entity key := by
  simp only [StoresKey, same.stored]

/-- A new row would be stored alike. -/
theorem insertion (now : Instant) (fields : Fields) :
    Trial.insertion other now fields = Trial.insertion db now fields := by
  cases fields <;>
    simp only [Trial.insertion, same.users, same.memos, same.tags, same.attachments]

/-- All rules but that of tag names depend on the contents alone. -/
theorem breaks {trial : Trial} {variant otherVariant : Variant} {breach : Breach}
    (unnamed : breach ≠ .name) :
    trial.Breaks variant db breach ↔ trial.Breaks otherVariant other breach := by
  cases breach with
  | name => exact absurd rfl unnamed
  | _ => simp only [Trial.Breaks, same.stored, same.storesKey]

/-- A deletion takes the same rows along. -/
theorem falls (entity : Entity) (p : Int → Bool) (row : Row) :
    other.falls entity p row = db.falls entity p row := by
  cases entity <;> cases row <;> simp only [Database.falls, same.memos, same.tags]

/-! ## What statements leave -/

/-- The contents stay the same when a row is added to both. -/
theorem adding (complete : db.Complete) (otherComplete : other.Complete) (row : Row) :
    SameContents (db.adding row) (other.adding row) := by
  obtain ⟨⟨users, first, second⟩, ⟨memos, others, memosFirst, memosSecond, memoRows⟩,
    ⟨tags, otherTags, tagsFirst, tagsSecond, tagRows⟩, attachments, last, otherLast⟩ :=
    same.shared complete otherComplete
  cases row <;> constructor <;>
    simp [Database.adding, userTable, memoTable, tagTable, attachmentTable, *]

/-- The contents stay the same when a row is replaced in both. -/
theorem replacing (complete : db.Complete) (otherComplete : other.Complete) (row : Row) :
    SameContents (db.replacing row) (other.replacing row) := by
  obtain ⟨⟨users, first, second⟩, ⟨memos, others, memosFirst, memosSecond, memoRows⟩,
    ⟨tags, otherTags, tagsFirst, tagsSecond, tagRows⟩, attachments, last, otherLast⟩ :=
    same.shared complete otherComplete
  cases row <;> constructor <;>
    simp [Database.replacing, userTable, memoTable, tagTable, attachmentTable, *]

/-- The contents stay the same when rows go from both. -/
theorem removeRows (linked : db.Linked) (otherLinked : other.Linked) (entity : Entity)
    (p : Int → Bool) : SameContents (db.removeRows entity p) (other.removeRows entity p) := by
  have lost := lost_removeRows linked entity p
  have otherLost := lost_removeRows otherLinked entity p
  refine ⟨?_, ?_, ?_, ?_⟩
  · simp only [lost.users, otherLost.users, same.users, same.falls]
  · simp only [lost.memos, otherLost.memos, same.memos, same.falls]
  · simp only [lost.tags, otherLost.tags, same.tags, same.falls]
  · simp only [lost.attachments, otherLost.attachments, same.attachments, same.falls]

end SameContents

/-! ## What is decided -/

/-- Only a taken name is refused as such. -/
theorem refusal_eq_nameTaken {trial : Trial} {breach : Breach}
    (same : trial.refusal breach = nameTaken) : breach = .name := by
  cases breach with
  | name => rfl
  | _ => simp [Trial.refusal, nameTaken] at same

/-- What is decided over two databases with the same contents, of which the first has the index
on tag names and the second has not, is the same unless the first refuses a name. Then the row
breaks no rule over the second, or that of references only. -/
theorem decides_alike {db other : Database} (same : SameContents db other) {trial : Trial}
    {α β : Type} {result : Except Refusal (Database × α)} {result' : Except Refusal (Database × β)}
    {accepts : α → Prop} {accepts' : β → Prop}
    (decided : db.Decides .uniqueTagName trial result accepts)
    (decided' : other.Decides .basic trial result' accepts') :
    (∃ refusal, result = .error refusal ∧ result' = .error refusal) ∨
      ((∃ after value, result = .ok (after, value) ∧ accepts value) ∧
        ∃ after value, result' = .ok (after, value) ∧ accepts' value) ∨
      (result = .error nameTaken ∧ ((∃ after value, result' = .ok (after, value) ∧ accepts' value) ∨
        result' = .error .danglingReference)) := by
  have spared : ¬ trial.Breaks .basic other .name := by
    rintro ⟨impossible, -⟩
    cases impossible
  by_cases taken : result = .error nameTaken
  · -- The rules before that of names are kept over both, so that of references is left.
    let before : List Breach := [.value, .owner, .key, .code]
    have parted : Breach.order = before ++ [.name, .reference] := rfl
    have unnamed : ∀ breach ∈ before, breach ≠ .name := by decide
    rw [Decides, parted] at decided decided'
    have later : ∀ breach ∈ before, result ≠ .error (trial.refusal breach) := by
      intro breach member refused
      have refusals := Except.error.inj (refused.symm.trans taken)
      exact unnamed breach member (refusal_eq_nameTaken refusals)
    have kept : ∀ breach ∈ before, ¬ trial.Breaks .basic other breach := by
      intro breach member
      rw [← same.breaks (unnamed breach member)]
      exact decided.reached later breach member
    refine .inr (.inr ⟨taken, ?_⟩)
    have left := (decided'.skip kept).2 spared
    by_cases dangling : trial.Breaks .basic other .reference
    · exact .inr (left.1 dangling)
    · obtain ⟨⟨after, value⟩, succeeded, accepted, -⟩ := left.2 dangling
      exact .inl ⟨after, value, succeeded, accepted⟩
  · rcases decided.alike decided' (fun breach unnamed => same.breaks unnamed) spared taken with
      failed | ⟨⟨⟨after, value⟩, succeeded, accepted, -⟩, ⟨other, value'⟩, succeeded', accepted', -⟩
    · exact .inl failed
    · exact .inr (.inl ⟨⟨after, value, succeeded, accepted⟩, other, value', succeeded', accepted'⟩)

end Database

end MemoStore.Store
