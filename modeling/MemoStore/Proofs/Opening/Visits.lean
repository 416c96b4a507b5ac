import MemoStore.Proofs.Opening.Attempts
import MemoStore.Proofs.Store.Bare

/-!
# Visits to a database

Clients come to one database one after the other: to open it, to set its schema up, or to ask
about its rows. Each comes over a connection of its own, which may be denied every change.
`Visits.variant_kept` says that the database stays what the first visit made of it that set the
schema up: every later one finds its variant, creates nothing, and is told of a mismatch exactly
if it has another variant configured. The variant is read from the index on tag names, which a
complete schema need not have, so what carries over from visit to visit is that the database is
sound for the variant, index included.
-/

namespace MemoStore.Opening

open MemoStore.Files (Disk)
open MemoStore.Schema (Variant)
open MemoStore.Store (Connection Database Request Storage)
open MemoStore.Store.Connection (server)
open MemoStore.Time (Instant)

/-- What a client does with a database. A request is about rows. -/
inductive Visit where
  | connect (settings : Settings) (disk : Disk)
  | setUp (connection : Connection) (variant : Variant)
  | ask (connection : Connection) (now : Instant) (request : Request)
      (record : request.isRecord = true)

namespace Visit

/-- The connection that a visit goes over, unless it does not get at the database. -/
def connection? : Visit → Option Connection
  | .connect settings disk =>
    match reach settings disk with
    | (.ok database, _) => some database.connection
    | (.error _, _) => none
  | .setUp connection _ | .ask connection _ _ _ => some connection

/-- What a visit over a connection leaves stored. -/
def left (connection : Connection) : Visit → Storage
  | .connect settings _ =>
    ((Opening.setUp .sqlite settings.variant).run server connection).state.storage
  | .setUp _ variant => (connection.setUp variant).state.storage
  | .ask _ now request _ => (connection.handle now request).connection.storage

/-- The variant that a visit has configured, if it is about the schema. -/
def configured? : Visit → Option Variant
  | .connect settings _ => some settings.variant
  | .setUp _ variant => some variant
  | .ask _ _ _ _ => none

/-- Whether a visit is about the schema and succeeds. -/
def Succeeds : Visit → Prop
  | .connect settings disk => ∃ opened, (Opening.connect settings disk).result = .ok opened
  | .setUp connection variant => ∃ applied, (connection.setUp variant).result = .ok applied
  | .ask _ _ _ _ => False

/-- Whether a visit finds a schema of a variant complete. If it is about the schema, it succeeds,
applies nothing, and leaves the connection as it is, and who opens the database is told of a
mismatch exactly if another variant is configured. -/
def Finds (variant : Variant) : Visit → Prop
  | .connect settings disk =>
    ∃ database left, reach settings disk = (.ok database, left) ∧
      Opening.connect settings disk =
        { result := .ok database
          disk := database.keep left
          log := [connectedReport, presentReport] ++ mismatchReports variant settings.variant }
  | .setUp connection configured =>
    connection.setUp configured = ⟨.ok false, connection, [presentReport]⟩
  | .ask connection now _ _ => (connection.handle now .detectVariant).answer = .variant variant

variable {visit : Visit} {connection : Connection} {db : Database} {variant : Variant}

/-- Who opens a database goes over the connection that was reached. -/
theorem reach_of_connection? {settings : Settings} {disk : Disk}
    (arrived : (connect settings disk).connection? = some connection) :
    ∃ database left, reach settings disk = (.ok database, left) ∧
      database.connection = connection := by
  unfold connection? at arrived
  cases reached : reach settings disk with
  | mk arrival left =>
      cases arrival with
      | error obstacle =>
          simp only [reached] at arrived
          cases arrived
      | ok database =>
          simp only [reached] at arrived
          exact ⟨database, left, rfl, Option.some.inj arrived⟩

/-- To open a database leaves in it what setting up its schema leaves. -/
theorem left_connect {settings : Settings} {disk : Disk} (connection : Connection) :
    (connect settings disk).left connection =
      (connection.setUp settings.variant).state.storage :=
  congrArg Connection.storage (state_setUp connection settings.variant)

/-- Over a database without tables, every visit but one that sets the schema up leaves it so. -/
theorem left_of_failed (bare : db.Bare) (stored : connection.storage = .database db)
    (arrived : visit.connection? = some connection) (failed : ¬ visit.Succeeds) :
    visit.left connection = .database db := by
  have kept {asked : Variant}
      (failed : ¬ ∃ applied, (connection.setUp asked).result = .ok applied) :
      (connection.setUp asked).state.storage = .database db := by
    cases result : (connection.setUp asked).result with
    | ok applied => exact absurd ⟨applied, result⟩ failed
    | error failure => exact (Connection.setUp_atomic asked result).trans stored
  cases visit with
  | connect settings disk =>
      obtain ⟨database, left, reached, rfl⟩ := reach_of_connection? arrived
      exact (left_connect _).trans (kept (mt (connect_ok_iff reached).mpr failed))
  | setUp own asked =>
      cases arrived
      exact kept failed
  | ask own now request record =>
      cases arrived
      have kept : ∃ after, (connection.handle now request).connection.storage = .database after ∧
          after = db := Connection.stored_record (fun _ => bare.unchanged) record stored rfl
      obtain ⟨after, left, same⟩ := kept
      exact left.trans (congrArg Storage.database same)

/-- The first visit that sets the schema up makes a database of its variant. -/
theorem left_of_succeeded (bare : db.Bare) (stored : connection.storage = .database db)
    (arrived : visit.connection? = some connection) (succeeded : visit.Succeeds)
    (configured : visit.configured? = some variant) :
    ∃ after, visit.left connection = .database after ∧ after.Sound variant := by
  have made {applied : Bool} (succeeded : (connection.setUp variant).result = .ok applied) :
      ∃ after, (connection.setUp variant).state.storage = .database after ∧
        after.Sound variant := by
    obtain ⟨found, same, ⟨-, complete, -⟩ | ⟨-, -, after, on, complete, extended, index⟩⟩ :=
      Connection.setUp_ok succeeded
    · cases stored.symm.trans same
      exact absurd complete bare.incomplete
    · cases stored.symm.trans same
      exact ⟨after, on.storage, bare.sound complete extended index⟩
  cases visit with
  | connect settings disk =>
      obtain ⟨database, left, reached, rfl⟩ := reach_of_connection? arrived
      cases configured
      obtain ⟨applied, result⟩ := (connect_ok_iff reached).mp succeeded
      obtain ⟨after, left, sound⟩ := made result
      exact ⟨after, (left_connect _).trans left, sound⟩
  | setUp own asked =>
      cases arrived
      cases configured
      obtain ⟨applied, result⟩ := succeeded
      exact made result
  | ask own now request record => cases configured

/-- Who opens a database without tables is told of no mismatch. -/
theorem matched_of_bare {settings : Settings} {disk : Disk} (bare : db.Bare)
    (stored : connection.storage = .database db)
    (arrived : (connect settings disk).connection? = some connection)
    (detected configured : Variant) :
    mismatchReport detected configured ∉ (Opening.connect settings disk).log := by
  cases result : (Opening.connect settings disk).result with
  | error obstacle => exact connect_error result detected configured
  | ok opened =>
      obtain ⟨after, left, sound⟩ := left_of_succeeded bare stored arrived ⟨opened, result⟩ rfl
      obtain ⟨database, rest, reached, same⟩ := reach_of_connection? arrived
      obtain ⟨other, _, found, again, -, state, opened, -, -, reports⟩ := connect_ok result
      cases reached.symm.trans again
      rw [state, same] at opened
      cases opened.symm.trans ((left_connect connection).symm.trans left)
      rw [reports, sound.index, Variant.ofIndex_hasTagNameIndex]
      rintro ⟨rfl, rfl, apart⟩
      exact apart rfl

/-- The variant of a sound database is found out. -/
theorem detected_of_sound (sound : db.Sound variant) (stored : connection.storage = .database db)
    (now : Instant) : (connection.handle now .detectVariant).answer = .variant variant := by
  rw [answer_detectVariant stored, sound.index, Variant.ofIndex_hasTagNameIndex]

/-- A visit to a sound database finds its variant. -/
theorem finds_of_sound (sound : db.Sound variant) (stored : connection.storage = .database db)
    (arrived : visit.connection? = some connection) : visit.Finds variant := by
  cases visit with
  | connect settings disk =>
      obtain ⟨database, left, reached, rfl⟩ := reach_of_connection? arrived
      have opened := connect_complete reached stored sound.complete
      rw [sound.index, Variant.ofIndex_hasTagNameIndex] at opened
      exact ⟨database, left, reached, opened⟩
  | setUp own asked =>
      cases arrived
      exact setUp_of_complete stored sound.complete asked
  | ask own now request record =>
      cases arrived
      exact detected_of_sound sound stored now

/-- A visit to a sound database leaves a sound one of the same variant. -/
theorem left_of_sound (sound : db.Sound variant) (stored : connection.storage = .database db)
    (arrived : visit.connection? = some connection) :
    ∃ after, visit.left connection = .database after ∧ after.Sound variant := by
  cases visit with
  | connect settings disk =>
      obtain ⟨database, left, reached, rfl⟩ := reach_of_connection? arrived
      obtain ⟨-, same⟩ := Connection.setUp_complete stored sound.complete settings.variant
      refine ⟨db, ?_, sound⟩
      rw [left_connect, same, stored]
  | setUp own asked =>
      cases arrived
      obtain ⟨-, same⟩ := Connection.setUp_complete stored sound.complete asked
      exact ⟨db, (congrArg Connection.storage same).trans stored, sound⟩
  | ask own now request record =>
      cases arrived
      exact Connection.stored_record (fun _ => sound.change) record stored sound

end Visit

/-- Visits to one database, each over a connection to what the visits before it left. -/
inductive Visits : Storage → List Visit → Storage → Prop where
  | none {storage : Storage} : Visits storage [] storage
  | next {visit : Visit} {connection : Connection} {visits : List Visit} {start last : Storage} :
      visit.connection? = some connection → connection.storage = start →
        Visits (visit.left connection) visits last → Visits start (visit :: visits) last

namespace Visits

variable {visits before later : List Visit} {first : Visit} {start last : Storage} {db : Database}
  {variant : Variant}

/-- What the first visit leaves, the others go on from. -/
theorem uncons (visits : Visits start (first :: later) last) :
    ∃ connection, first.connection? = some connection ∧ connection.storage = start ∧
      Visits (first.left connection) later last := by
  cases visits with
  | next arrived stored rest => exact ⟨_, arrived, stored, rest⟩

/-- All visits to a sound database find its variant, and it stays sound. -/
theorem sound (run : Visits start visits last) (holds : start = .database db)
    (sound : db.Sound variant) :
    (∀ visit ∈ visits, visit.Finds variant) ∧
      ∃ after, last = .database after ∧ after.Sound variant := by
  induction run generalizing db with
  | none => exact ⟨fun _ member => absurd member List.not_mem_nil, db, holds, sound⟩
  | next arrived stored rest inductionHypothesis =>
      subst holds
      obtain ⟨after, left, afterSound⟩ := Visit.left_of_sound sound stored arrived
      obtain ⟨found, kept⟩ := inductionHypothesis left afterSound
      exact ⟨List.forall_mem_cons.mpr ⟨Visit.finds_of_sound sound stored arrived, found⟩, kept⟩

/-- Visits that do not set the schema up leave a database without tables. -/
theorem bare (bare : db.Bare) (failed : ∀ visit ∈ before, ¬ visit.Succeeds)
    (run : Visits (.database db) (before ++ visits) last) : Visits (.database db) visits last := by
  induction before with
  | nil => exact run
  | cons visit before inductionHypothesis =>
      obtain ⟨unset, others⟩ := List.forall_mem_cons.mp failed
      obtain ⟨connection, arrived, stored, rest⟩ := uncons run
      rw [Visit.left_of_failed bare stored arrived unset] at rest
      exact inductionHypothesis others rest

/-- A database keeps the variant of the visit that set its schema up first. -/
theorem variant_kept (bare : db.Bare) (failed : ∀ visit ∈ before, ¬ visit.Succeeds)
    (succeeded : first.Succeeds) (configured : first.configured? = some variant)
    (run : Visits (.database db) (before ++ first :: later) last) :
    (∀ connection : Connection, connection.storage = last → ∀ now,
        (connection.handle now .detectVariant).answer = .variant variant) ∧
      (∀ visit ∈ later, visit.Finds variant) ∧
      ∀ settings disk, .connect settings disk ∈ before ++ [first] → ∀ detected asked,
        mismatchReport detected asked ∉ (Opening.connect settings disk).log := by
  obtain ⟨connection, arrived, stored, rest⟩ := uncons (Visits.bare bare failed run)
  obtain ⟨made, left, madeSound⟩ :=
    Visit.left_of_succeeded bare stored arrived succeeded configured
  obtain ⟨found, after, lastStored, sound⟩ := Visits.sound rest left madeSound
  refine ⟨?_, found, ?_⟩
  · intro connection same now
    exact Visit.detected_of_sound sound (same.trans lastStored) now
  · intro settings disk member detected asked
    rcases List.mem_append.mp member with member | member
    · cases result : (Opening.connect settings disk).result with
      | error obstacle => exact connect_error result detected asked
      | ok opened => exact absurd ⟨opened, result⟩ (failed _ member)
    · cases List.mem_singleton.mp member
      exact Visit.matched_of_bare bare stored arrived detected asked

/-- A database of the basic variant stays one when unique tag names are configured. -/
theorem variant_kept_basic :
    let settings := { Settings.sqlite "/memo.db" with variant := .basic }
    let next : Connection := { storage := (Visit.connect settings {}).left {} }
    next.setUp .uniqueTagName = ⟨.ok false, next, [presentReport]⟩ := by
  intro settings next
  let made : Disk := { entries := [(["memo.db"], .file (.text ""))] }
  have url : settings.url = "sqlite:///memo.db" := by decide +kernel
  have prepared : prepare {} "sqlite:///memo.db" = (.ok (), made) := rfl
  have target : Opening.target "sqlite:///memo.db" = .ok { file := "/memo.db" } := by
    decide +kernel
  have opened : openTarget made { file := "/memo.db" } =
      .ok ({ connection := {}, place := some ["memo.db"] }, made) := rfl
  have reached : reach settings {} =
      (.ok { connection := {}, place := some ["memo.db"] }, made) := by
    simp only [reach, url, prepared, target, opened]
  have arrived : (Visit.connect settings {}).connection? = some {} := by
    simp only [Visit.connection?, reached]
  have succeeded : (Visit.connect settings {}).Succeeds :=
    (connect_ok_iff reached).mpr
      ⟨true, Connection.setUp_bare ⟨rfl, rfl⟩ Database.bare_empty .basic⟩
  have run : Visits (.database .empty)
      ([] ++ .connect settings {} :: [.setUp next .uniqueTagName])
      ((Visit.setUp next .uniqueTagName).left next) :=
    .next arrived rfl (.next rfl (by simp only [next]) .none)
  exact (variant_kept Database.bare_empty (by simp) succeeded rfl run).2.1
    (.setUp next .uniqueTagName) (List.mem_singleton_self _)

end Visits

end MemoStore.Opening
