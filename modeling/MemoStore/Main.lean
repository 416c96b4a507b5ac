import MemoStore.Command

/-!
# The program

The outer layer of the command: it collects the variables and the environment file,
runs the command on a disk that holds no more than these, prints what is shown, and
makes the folders and text files that the run made. The database itself lasts as long
as the run.
-/

namespace MemoStore.Program

open MemoStore.Files (Content Disk Entry Path Place)

/-- The variables that every run reads. -/
def readVariables : List String :=
  ["SQLITE_PATH", "DATABASE_URL", "TAG_NAME_UNIQUE", "DB_MAX_CONNECTIONS", "SCHEMA_DOC_DIR",
    "SCHEMA_DOC_FORMAT", Command.filterVariable]

/-- The names that an environment file may refer to. -/
def mentioned : List Char → List String
  | [] => []
  | '$' :: '\x7b' :: rest => String.ofList (rest.takeWhile (· != '\x7d')) :: mentioned rest
  | '$' :: rest => String.ofList (rest.takeWhile Environment.isNameChar) :: mentioned rest
  | _ :: rest => mentioned rest

/-- The text of a place. -/
def placeText (place : Place) : String :=
  "/" ++ String.intercalate "/" place

/-- The text of the nearest environment file, with the folder it is in. -/
def findFile : List Place → IO (Option (Place × String))
  | [] => return none
  | folder :: around => do
    try
      let text ← IO.FS.readFile (placeText (folder ++ [Command.environmentFile]))
      return some (folder, text)
    catch _ => findFile around

/-- The values that variables have. -/
def collect (names : List String) : IO Environment := do
  let values ← names.mapM fun name => do
    return (← IO.getEnv name).map fun value => (name, value)
  return ⟨values.filterMap id⟩

/-- Makes what a run made at a place. -/
def realise (entry : Place × Entry) : IO Unit :=
  match entry.2 with
  | .folder => IO.FS.createDirAll (placeText entry.1)
  | .file (.text body) => IO.FS.writeFile (placeText entry.1) body
  | .file (.database _) => pure ()

/-- Runs the command, prints what it shows, and gives its exit status. -/
def runCommand : IO UInt32 := do
  let here := (Path.read (← IO.currentDir).toString).destination []
  let file ← findFile (Files.outward here)
  let names := readVariables ++ (file.map fun found => mentioned found.2.toList).getD []
  let env ← collect names
  let folders : Disk :=
    { entries := (Files.outward here).map fun folder => (folder, .folder), here := here }
  let disk :=
    match file with
    | some (folder, text) => folders.put (folder ++ [Command.environmentFile]) (.file (.text text))
    | none => folders
  let run := Command.run env disk
  for line in run.lines do
    IO.eprintln line
  for entry in run.disk.entries do
    if (disk.entry? entry.1).isNone then
      realise entry
  return run.status.toUInt32

end MemoStore.Program

/-- Runs the program. -/
def main : IO UInt32 :=
  MemoStore.Program.runCommand
