import MemoStore.Address.Target
import MemoStore.Address.Url
import MemoStore.Files.DatabaseFile
import MemoStore.Settings

/-!
# Opening the database

To open the database of some settings is to prepare its file, to read its URL, to open
it, and to set up the schema in it. A failure ends this, but what was done to the disk
before stays: a prepared file is there also when its URL turns out to be none. A
database whose variant is not the configured one is reported and used as it is.

Only SQLite is opened. Of MySQL it is assumed that no server can be reached
(`mysqlUnreachable`), so nothing is said here of an open MySQL database.
-/

namespace MemoStore

open MemoStore.Address (Target UrlFault)
open MemoStore.Files (Disk Path Place)
open MemoStore.Schema (Backend Session Variant)
open MemoStore.Store (Connection Refusal)

/-- Why a database cannot be opened. -/
inductive Obstacle where
  | failure (cause : Failure)
  /-- the URL cannot be read at all, which no caller is prepared for -/
  | malformedUrl (fault : UrlFault)
  deriving DecidableEq, Repr

/-- The text of an obstacle. -/
def Obstacle.message : Obstacle → String
  | .failure cause => cause.message
  | .malformedUrl fault => "Fail to parse database URL: " ++ fault.label

/-- An open database, and where its file is unless it is in memory. -/
structure OpenDatabase where
  connection : Connection
  place : Option Place := none
  deriving Repr

namespace OpenDatabase

/-- Keeps what a database holds in its file. -/
def keep (database : OpenDatabase) (disk : Disk) : Disk :=
  match database.place with
  | some place =>
    if database.connection.changed then disk.keep place database.connection.storage else disk
  | none => disk

end OpenDatabase

namespace Opening

/-- Makes sure that the file of a URL exists. -/
def prepare (disk : Disk) (url : String) : Except FileError Unit × Disk :=
  match Address.preparedFile? url with
  | some file => disk.ensureFile (Path.read file)
  | none => (.ok (), disk)

/-- What is reported of every MySQL URL, on the assumption that no server listens anywhere. -/
def mysqlUnreachable : String :=
  "error communicating with database: Connection refused (os error 111)"

/-- What a URL asks for, if there is an engine for its scheme and one can be reached. -/
def target (url : String) : Except Obstacle Target :=
  match Address.Url.scheme url with
  | .error fault => .error (.malformedUrl fault)
  | .ok scheme =>
    let read :=
      if scheme = "sqlite" then
        (Target.read url).mapError fun complaint => "error with configuration: " ++ complaint
      else if scheme = "mysql" then .error mysqlUnreachable
      else .error ("The connection string '" ++ url ++ "' has no supporting driver.")
    read.mapError fun text => .failure (Failure.ofEngine (.connection text))

/-- Opens what a URL asks for, or says why that is impossible. -/
def openTarget (disk : Disk) (target : Target) : Except String (OpenDatabase × Disk) :=
  match target.access? with
  | none =>
    .error
      "error communicating with database: filename passed to SQLite must not contain nul bytes"
  | some (.error fault) => .error fault.text
  | some (.ok access) =>
    match access.location with
    | .memory | .temporary =>
      let denial := if access.forbidsWrites then some Refusal.readOnly else none
      .ok ({ connection := { denial := denial } }, disk)
    | .file path =>
      match disk.openDatabase (Path.read path) access with
      | .error refusal => .error refusal.text
      | .ok (connection, place, disk) =>
        .ok ({ connection := connection, place := some place }, disk)

/-- The set-up that every connection begins with. -/
def setUp (backend : Backend) (variant : Variant) : Session (Except Failure Unit) :=
  .report ⟨.info, .connection, "connected to " ++ backend.label ++ " database"⟩
    ((Schema.initSchema backend variant).andThen fun created =>
      let detection :=
        (Schema.detectVariant backend).andThen fun detected =>
          if detected = variant then .done (.ok ())
          else
            .report
              ⟨.warn, .connection,
                "database was created with variant " ++ detected.label ++ " but " ++
                  variant.label ++ " is configured"⟩
              (.done (.ok ()))
      if created then
        .report ⟨.info, .connection, "schema created with variant " ++ variant.label⟩ detection
      else detection)

/-- What an attempt to open a database leaves. -/
structure Attempt where
  result : Except Obstacle OpenDatabase
  disk : Disk
  log : List Log.Record := []

/-- Sets up the schema in an open database. -/
def setUpIn (database : OpenDatabase) (disk : Disk) (variant : Variant) : Attempt :=
  let outcome := (setUp .sqlite variant).run Connection.server database.connection
  let database := { database with connection := outcome.state }
  { result :=
      match outcome.result with
      | .ok () => .ok database
      | .error failure => .error (.failure failure)
    disk := database.keep disk
    log := outcome.log }

/-- Opens the database of some settings. -/
def connect (settings : Settings) (disk : Disk) : Attempt :=
  match prepare disk settings.url with
  | (.error error, disk) => { result := .error (.failure (.file error)), disk := disk }
  | (.ok (), disk) =>
    match target settings.url with
    | .error obstacle => { result := .error obstacle, disk := disk }
    | .ok target =>
      match openTarget disk target with
      | .error text =>
        { result := .error (.failure (Failure.ofEngine (.connection text))), disk := disk }
      | .ok (database, disk) => setUpIn database disk settings.variant

end Opening

end MemoStore
