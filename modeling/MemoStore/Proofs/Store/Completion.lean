import MemoStore.Proofs.Schema.Steps
import MemoStore.Proofs.Store.Contents
import MemoStore.Store.Define

/-!
# Completing a database

Creating the objects of the changelog that a database lacks. `ensureAll_variantObjects`
says how that ends: with everything there and nothing lost, or with the refusal of the
index on tag names because the stored names repeat.
-/

namespace MemoStore.Store

open MemoStore.Record (Entity)
open MemoStore.Schema (Object Variant scriptObjects tableObjects variantObjects)

namespace Database

/-- Whether all tables and the trigger exist. -/
structure Complete (db : Database) : Prop where
  tables : ∀ entity, db.has entity = true
  trigger : db.touchesMemos = true

/-- The required objects are the tables and the trigger. -/
theorem complete_iff {db : Database} :
    db.Complete ↔ ∀ object ∈ scriptObjects .sqlite, db.hasObject object = true := by
  constructor
  · rintro ⟨tables, trigger⟩ object required
    simp only [scriptObjects, tableObjects, List.cons_append, List.nil_append, List.mem_cons,
      List.not_mem_nil, or_false] at required
    rcases required with rfl | rfl | rfl | rfl | rfl
    · exact tables .user
    · exact tables .memo
    · exact tables .tag
    · exact tables .attachment
    · exact trigger
  · intro existing
    refine ⟨fun entity => ?_, existing (.trigger .touchMemo) (by decide)⟩
    cases entity with
    | user => exact existing (.table .user) (by decide)
    | memo => exact existing (.table .memo) (by decide)
    | tag => exact existing (.table .tag) (by decide)
    | attachment => exact existing (.table .attachment) (by decide)

/-- What keeps the tables and the trigger keeps a schema complete. -/
theorem Complete.mono {before after : Database} (complete : before.Complete)
    (tables : ∀ entity, before.has entity = true → after.has entity = true)
    (trigger : before.touchesMemos = true → after.touchesMemos = true) : after.Complete :=
  ⟨fun entity => tables entity (complete.tables entity), trigger complete.trigger⟩

/-- Whether two stored tags have the same name in the same scope, at different places of
their table. -/
def RepeatsTagName (db : Database) : Prop :=
  ∃ first second, List.Sublist [first, second] db.tagTable.rows ∧
    first.name = second.name ∧ first.isOfficial = second.isOfficial ∧
      first.userId = second.userId ∧ first.userId ≠ none

/-- Two tags have the same name in the same scope when all three columns agree and there is an
owner. -/
theorem sameName_iff {a b : Tag} :
    sameName a b = true ↔
      a.name = b.name ∧ a.isOfficial = b.isOfficial ∧ a.userId = b.userId ∧ a.userId ≠ none := by
  simp only [sameName, Bool.and_eq_true, beq_iff_eq, Option.isSome_iff_ne_none]
  constructor
  · rintro ⟨⟨⟨name, flag⟩, owned⟩, owner⟩
    exact ⟨name, flag, owner, owned⟩
  · rintro ⟨name, flag, owner, owned⟩
    exact ⟨⟨⟨name, flag⟩, owned⟩, owner⟩

/-- The engine finds repeated names exactly where two tags have one. -/
theorem repeatsName_iff {rows : List Tag} :
    repeatsName rows = true ↔
      ∃ first second, List.Sublist [first, second] rows ∧ sameName first second = true := by
  induction rows with
  | nil => simp [repeatsName]
  | cons tag rest inductionHypothesis =>
      simp only [repeatsName, Bool.or_eq_true, List.any_eq_true, inductionHypothesis]
      constructor
      · rintro (⟨other, later, same⟩ | ⟨first, second, later, same⟩)
        · exact ⟨tag, other, (List.singleton_sublist.mpr later).cons_cons tag, same⟩
        · exact ⟨first, second, later.cons tag, same⟩
      · rintro ⟨first, second, within, same⟩
        cases within with
        | cons _ later => exact .inr ⟨first, second, later, same⟩
        | cons_cons _ later =>
            exact .inl ⟨second, List.singleton_sublist.mp later, same⟩

/-- A database that has gained objects and lost nothing. -/
structure Extends (before after : Database) : Prop extends SameContents before after where
  objects : ∀ object, before.hasObject object = true → after.hasObject object = true

namespace Extends

variable {first second third : Database}

/-- A database extends itself. -/
theorem refl (db : Database) : Extends db db :=
  ⟨.refl db, fun _ existing => existing⟩

/-- An extension of an extension is an extension. -/
theorem trans (left : Extends first second) (right : Extends second third) :
    Extends first third :=
  ⟨left.toSameContents.trans right.toSameContents,
    fun object existing => right.objects object (left.objects object existing)⟩

end Extends

/-- Creates an object unless it exists. -/
def ensure (db : Database) (object : Object) : Except Refusal Database :=
  if db.hasObject object then .ok db else db.create object

/-- Creates the objects of a list that do not exist, in order. -/
def ensureAll (db : Database) : List Object → Except Refusal Database
  | [] => .ok db
  | object :: rest =>
    match db.ensure object with
    | .ok db => db.ensureAll rest
    | .error refusal => .error refusal

/-- Creating a table keeps everything that is there. -/
theorem extends_createTable (db : Database) (entity : Entity) :
    db.Extends (db.createTable entity) where
  users := by cases entity <;> simp [createTable, userTable]
  memos := by cases entity <;> cases stored : db.memos <;> simp [createTable, memoTable, stored]
  tags := by cases entity <;> cases stored : db.tags <;> simp [createTable, tagTable, stored]
  attachments := by cases entity <;> simp [createTable, attachmentTable]
  objects := by
    intro object existing
    cases object with
    | table other =>
        cases entity <;> cases other <;> simp_all [createTable, hasObject, has]
    | foreignKey key => cases existing
    | trigger which =>
        cases which with
        | touchMemo =>
            cases entity <;> cases stored : db.memos <;>
              simp_all [createTable, hasObject, touchesMemos]
        | tagOwnerInsert | tagOwnerUpdate => cases existing
    | tagNameIndex =>
        cases entity <;> cases stored : db.tags <;>
          simp_all [createTable, hasObject, uniqueTagNames]

/-- Creating the trigger on memos keeps everything that is there. -/
theorem extends_touches {db : Database} {memos : MemoTable} (stored : db.memos = some memos) :
    db.Extends { db with memos := some { memos with touches := true } } where
  users := rfl
  memos := by simp [memoTable, stored]
  tags := rfl
  attachments := rfl
  objects := by
    intro object existing
    cases object with
    | table entity => cases entity <;> simp_all [hasObject, has]
    | foreignKey key => cases existing
    | trigger which =>
        cases which with
        | touchMemo => rfl
        | tagOwnerInsert | tagOwnerUpdate => cases existing
    | tagNameIndex => exact existing

/-- Creating the index on tag names keeps everything that is there. -/
theorem extends_uniqueNames {db : Database} {tags : TagTable} (stored : db.tags = some tags) :
    db.Extends { db with tags := some { tags with uniqueNames := true } } where
  users := rfl
  memos := rfl
  tags := by simp [tagTable, stored]
  attachments := rfl
  objects := by
    intro object existing
    cases object with
    | table entity => cases entity <;> simp_all [hasObject, has]
    | foreignKey key => cases existing
    | trigger which => cases which <;> exact existing
    | tagNameIndex => rfl

/-- An object that is created is there, nothing is lost, and only the index on tag names
makes these unique. -/
theorem ensure_ok {db after : Database} {object : Object} (ensured : db.ensure object = .ok after) :
    db.Extends after ∧ (object ∈ Schema.createdObjects .sqlite → after.hasObject object = true) ∧
      after.uniqueTagNames = (db.uniqueTagNames || .tagNameIndex == object) := by
  unfold ensure at ensured
  split at ensured
  · rename_i existing
    cases ensured
    refine ⟨.refl db, fun _ => existing, ?_⟩
    by_cases same : object = .tagNameIndex
    · subst same
      have unique : db.uniqueTagNames = true := existing
      rw [unique]
      rfl
    · simp [Ne.symm same]
  · cases object with
    | table entity =>
        cases ensured
        refine ⟨db.extends_createTable entity, fun _ => ?_, ?_⟩
        · cases entity <;> rfl
        · cases entity <;> cases stored : db.tags <;> simp [createTable, uniqueTagNames, stored]
    | foreignKey key =>
        cases ensured
        exact ⟨.refl db, fun created => absurd created (by cases key <;> decide), by simp⟩
    | trigger which =>
        cases which with
        | touchMemo =>
            simp only [create] at ensured
            split at ensured
            · cases ensured
            · rename_i memos stored
              cases ensured
              exact ⟨extends_touches stored, fun _ => rfl, by simp [uniqueTagNames]⟩
        | tagOwnerInsert | tagOwnerUpdate =>
            cases ensured
            exact ⟨.refl db, fun created => absurd created (by decide), by simp⟩
    | tagNameIndex =>
        simp only [create] at ensured
        split at ensured
        · cases ensured
        · rename_i tags stored
          split at ensured
          · cases ensured
          · cases ensured
            exact ⟨extends_uniqueNames stored, fun _ => rfl, by simp [uniqueTagNames]⟩

/-- The stored tags repeat a name exactly if the engine finds that they do. -/
theorem repeatsTagName_iff {db : Database} {tags : TagTable} (stored : db.tags = some tags) :
    db.RepeatsTagName ↔ repeatsName tags.rows = true := by
  have rows : db.tagTable.rows = tags.rows := by simp [tagTable, stored]
  simp only [RepeatsTagName, repeatsName_iff, sameName_iff, rows]

/-- Once the tables are there, only repeated names are refused, and only by their index. -/
theorem ensure_error_iff {db : Database} (tables : ∀ entity, db.has entity = true)
    {object : Object} {refusal : Refusal} :
    db.ensure object = .error refusal ↔
      refusal = nameTaken ∧ object = .tagNameIndex ∧ db.uniqueTagNames = false ∧
        db.RepeatsTagName := by
  obtain ⟨memos, memosStored⟩ := Option.isSome_iff_exists.mp (tables .memo)
  obtain ⟨tags, tagsStored⟩ := Option.isSome_iff_exists.mp (tables .tag)
  have unique : db.uniqueTagNames = tags.uniqueNames := by simp [uniqueTagNames, tagsStored]
  rw [repeatsTagName_iff tagsStored, unique]
  unfold ensure
  cases object with
  | table entity => cases db.hasObject (.table entity) <;> simp [create]
  | foreignKey key => simp [create]
  | trigger which =>
      cases db.hasObject (.trigger which) <;> cases which <;> simp [create, memosStored]
  | tagNameIndex =>
      simp only [create, tagsStored, hasObject, unique]
      cases tags.uniqueNames <;> cases repeatsName tags.rows <;> simp [eq_comm]

/-- Two lists of objects are ensured one after the other. -/
theorem ensureAll_append (db : Database) (first second : List Object) :
    db.ensureAll (first ++ second) =
      match db.ensureAll first with
      | .ok ready => ready.ensureAll second
      | .error refusal => .error refusal := by
  induction first generalizing db with
  | nil => rfl
  | cons object rest inductionHypothesis =>
      simp only [List.cons_append, ensureAll]
      cases db.ensure object with
      | ok ready => exact inductionHypothesis ready
      | error refusal => rfl

/-- Objects that are created are all there, nothing is lost, and only the index on tag names
makes these unique. -/
theorem ensureAll_ok {db after : Database} {objects : List Object}
    (ensured : db.ensureAll objects = .ok after) :
    db.Extends after ∧
      (∀ object ∈ objects, object ∈ Schema.createdObjects .sqlite →
        after.hasObject object = true) ∧
      after.uniqueTagNames = (db.uniqueTagNames || objects.contains .tagNameIndex) := by
  induction objects generalizing db with
  | nil =>
      cases ensured
      exact ⟨.refl after, fun object member => absurd member List.not_mem_nil, by simp⟩
  | cons object rest inductionHypothesis =>
      simp only [ensureAll] at ensured
      split at ensured
      · rename_i ready first
        obtain ⟨extended, created, unique⟩ := ensure_ok first
        obtain ⟨extendedLater, createdLater, uniqueLater⟩ := inductionHypothesis ensured
        refine ⟨extended.trans extendedLater, fun other member ours => ?_, ?_⟩
        · rcases List.mem_cons.mp member with rfl | later
          · exact extendedLater.objects other (created ours)
          · exact createdLater other later ours
        · rw [uniqueLater, unique, List.contains_cons, Bool.or_assoc]
      · cases ensured

/-- Tables are never refused. -/
theorem ensureAll_tables (db : Database) (entities : List Entity) :
    ∃ ready, db.ensureAll (entities.map .table) = .ok ready := by
  induction entities generalizing db with
  | nil => exact ⟨db, rfl⟩
  | cons entity rest inductionHypothesis =>
      simp only [List.map_cons, ensureAll, ensure, create]
      split <;> rename_i ensured
      · exact inductionHypothesis _
      · split at ensured <;> cases ensured

/-- The objects that are required can always be created. -/
theorem ensureAll_scriptObjects (db : Database) :
    ∃ ready, db.ensureAll (scriptObjects .sqlite) = .ok ready ∧ ready.Complete := by
  obtain ⟨withTables, ensured⟩ := db.ensureAll_tables Entity.all
  have listed : tableObjects = Entity.all.map Object.table := rfl
  have tables : ∀ entity, withTables.has entity = true := by
    intro entity
    refine (ensureAll_ok ensured).2.1 (.table entity) ?_ ?_ <;> cases entity <;> decide
  rw [scriptObjects, ensureAll_append, listed, ensured]
  cases touched : withTables.ensure (.trigger .touchMemo) with
  | error refusal =>
      obtain ⟨-, impossible, -⟩ := (ensure_error_iff tables).mp touched
      cases impossible
  | ok ready =>
      refine ⟨ready, by simp only [ensureAll, touched], ?_, ?_⟩
      · intro entity
        exact (ensure_ok touched).1.objects (.table entity) (tables entity)
      · exact (ensure_ok touched).2.1 (by decide)

/-- The objects of a variant can be created unless the index on tag names is new and the
names repeat. Then everything is there and nothing is lost. -/
theorem ensureAll_variantObjects (db : Database) (variant : Variant) :
    (∃ after, db.ensureAll (variantObjects .sqlite variant) = .ok after ∧ after.Complete ∧
        db.Extends after ∧
        after.uniqueTagNames = (db.uniqueTagNames || variant.hasTagNameIndex) ∧
        ¬ (variant = .uniqueTagName ∧ db.uniqueTagNames = false ∧ db.RepeatsTagName)) ∨
      (db.ensureAll (variantObjects .sqlite variant) = .error nameTaken ∧
        variant = .uniqueTagName ∧ db.uniqueTagNames = false ∧ db.RepeatsTagName) := by
  obtain ⟨ready, ensured, complete⟩ := db.ensureAll_scriptObjects
  obtain ⟨extended, -, sameIndex⟩ := ensureAll_ok ensured
  have noIndex : (scriptObjects .sqlite).contains .tagNameIndex = false := by decide
  rw [noIndex, Bool.or_false] at sameIndex
  have sameTags : ready.RepeatsTagName ↔ db.RepeatsTagName := by
    unfold RepeatsTagName
    rw [extended.tags]
  rw [variantObjects, ensureAll_append, ensured]
  cases variant with
  | basic =>
      left
      refine ⟨ready, rfl, complete, extended, ?_, ?_⟩
      · rw [sameIndex]
        exact (Bool.or_false _).symm
      · rintro ⟨impossible, -⟩
        cases impossible
  | uniqueTagName =>
      have single : ready.ensureAll
          (if Variant.uniqueTagName.hasTagNameIndex = true then [Object.tagNameIndex] else []) =
            ready.ensure .tagNameIndex := by
        simp only [Variant.hasTagNameIndex, if_true, ensureAll]
        cases ready.ensure .tagNameIndex <;> rfl
      have refused : ∀ refusal, ready.ensure .tagNameIndex = .error refusal ↔
          refusal = nameTaken ∧ db.uniqueTagNames = false ∧ db.RepeatsTagName := by
        intro refusal
        rw [ensure_error_iff complete.tables, sameIndex, sameTags]
        simp only [true_and]
      simp only [single, true_and]
      cases indexed : ready.ensure .tagNameIndex with
      | error refusal =>
          obtain ⟨rfl, repeated⟩ := (refused refusal).mp indexed
          exact .inr ⟨rfl, repeated⟩
      | ok after =>
          obtain ⟨extendedLater, -, uniqueLater⟩ := ensure_ok indexed
          left
          refine ⟨after, rfl, ⟨fun entity => ?_, ?_⟩, extended.trans extendedLater, ?_, ?_⟩
          · exact extendedLater.objects (.table entity) (complete.tables entity)
          · exact extendedLater.objects (.trigger .touchMemo) complete.trigger
          · rw [uniqueLater, sameIndex]
            rfl
          · intro repeated
            have failing := (refused nameTaken).mpr ⟨rfl, repeated⟩
            rw [indexed] at failing
            cases failing

end Database

end MemoStore.Store
