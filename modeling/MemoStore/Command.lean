import MemoStore.Document.Export
import MemoStore.Environment.File
import MemoStore.Log.Filter
import MemoStore.Opening

/-!
# The command

A run of the program: it completes its variables from the nearest environment file,
reads its settings, opens the database, and writes the document if a directory for it
is given. What it reports is filtered, and its failure is reported last and decides the
exit status. A URL that cannot be read at all makes it crash, and then its status is that
of a crash.
-/

namespace MemoStore.Command

open MemoStore.Files (Disk)

/-- The name of an environment file. -/
def environmentFile : String := ".env"

/-- The variable that holds the log filter. -/
def filterVariable : String := "RUST_LOG"

/-- The status of a process that crashed. It depends on how the program is built, and on who
reports it, but is never that of success. -/
structure CrashStatus where
  code : Nat
  failed : code ≠ 0

/-- The status of a crash that unwinds, as in a build for tests. -/
def CrashStatus.unwound : CrashStatus := ⟨101, by decide⟩

/-- The exit status that an obstacle leads to. -/
def statusOf (crash : CrashStatus) : Obstacle → Nat
  | .failure cause => cause.code
  | .malformedUrl _ => crash.code

/-- What the work of a run leaves. -/
structure Work where
  obstacle : Option Obstacle := none
  disk : Disk
  log : List Log.Record

/-- Writes the document of the settings, if they ask for one. -/
def writeDocument (settings : Settings) (disk : Disk) : Work :=
  match settings.docDirectory with
  | none => { disk := disk, log := [] }
  | some directory =>
    match Document.writeExport disk directory settings.variant settings.docFormat with
    | (.ok (), disk) =>
      { disk := disk, log := [Document.exportReport directory settings.docFormat] }
    | (.error error, disk) =>
      { obstacle := some (.failure (.file error)), disk := disk, log := [] }

/-- Opens the database of the settings and writes the document. -/
def work (settings : Settings) (disk : Disk) : Work :=
  let attempt := Opening.connect settings disk
  match attempt.result with
  | .error obstacle =>
    { obstacle := some obstacle, disk := attempt.disk, log := attempt.log }
  | .ok _ =>
    let rest := writeDocument settings attempt.disk
    { rest with log := attempt.log ++ ⟨.info, .command, "schema ready"⟩ :: rest.log }

/-- The report of an obstacle. A crash goes past the log. -/
def obstacleReport? : Obstacle → Option Log.Record
  | .failure cause => some ⟨.error, .command, "memo-schema failed: " ++ cause.message⟩
  | .malformedUrl _ => none

/-- What a run leaves. -/
structure Run where
  status : Nat
  lines : List String
  disk : Disk

/-- The variables of a run, completed from the nearest environment file. -/
def completed (env : Environment) (disk : Disk) : Environment :=
  env.addFile (disk.nearestText? environmentFile (Files.outward disk.here))

/-- Runs the program. -/
def run (env : Environment) (disk : Disk) (crash : CrashStatus := .unwound) : Run :=
  let env := completed env disk
  let settings := Settings.ofLookup env.get?
  let done := work settings disk
  let records :=
    Settings.warnings env.get? ++ done.log ++ (done.obstacle.bind obstacleReport?).toList
  let (filter, complaints) := Log.Filter.read ((env.get? filterVariable).getD "")
  { status := (done.obstacle.map (statusOf crash)).getD 0
    lines := Log.shownLines filter complaints records
    disk := done.disk }

end MemoStore.Command
