import MemoStore.Failure.Basic
import MemoStore.Files.Path
import MemoStore.Store.Database

/-!
# Folders and files

What a disk holds, and the few things that are done to it: to make folders, to make
sure that a file exists, to write one, and to remove one. To make a folder with all
folders around it may fail half-way, and then what was made stays.
-/

namespace MemoStore.Files

open MemoStore.Store (Database)

/-- What a file holds. -/
inductive Content where
  | text (body : String)
  | database (db : Database)
  deriving Repr

/-- What is at a place. -/
inductive Entry where
  | folder
  | file (content : Content)
  deriving Repr

/-- A disk, seen from one of its folders. -/
structure Disk where
  entries : List (Place × Entry) := []
  here : Place := []
  deriving Repr

namespace Disk

/-- What is at a place. The root is always a folder. -/
def entry? (disk : Disk) (place : Place) : Option Entry :=
  if place.isEmpty then some .folder else disk.entries.lookup place

/-- Puts an entry at a place, instead of what was there. -/
def put (disk : Disk) (place : Place) (entry : Entry) : Disk :=
  { disk with
    entries := disk.entries.filter (fun found => found.1 != place) ++ [(place, entry)] }

/-- Takes away what is at a place. -/
def remove (disk : Disk) (place : Place) : Disk :=
  { disk with entries := disk.entries.filter fun found => found.1 != place }

/-- The longest name of an entry, in bytes. -/
def nameLimit : Nat := 255

/-- Goes along a path. What it leads to need not exist, but all before that must be
folders. -/
def follow (disk : Disk) : Place → List Move → Except FileError Place
  | place, [] => .ok place
  | place, move :: rest =>
    match disk.entry? place with
    | none => .error .notFound
    | some (.file _) => .error .notADirectory
    | some .folder =>
      match move with
      | .stay => disk.follow place rest
      | .up => disk.follow place.dropLast rest
      | .into name =>
        if nameLimit < name.utf8ByteSize then .error .nameTooLong
        else disk.follow (place ++ [name]) rest

/-- The place that a path leads to. -/
def locate (disk : Disk) (path : Path) : Except FileError Place :=
  if path.hasNul then .error .nulInPath
  else if Path.limit ≤ path.size then .error .nameTooLong
  else disk.follow (path.start disk.here) path.moves

/-- Whether a path leads to a folder. -/
def isFolder (disk : Disk) (path : Path) : Bool :=
  match (disk.locate path).map disk.entry? with
  | .ok (some .folder) => true
  | _ => false

/-- Makes a folder. -/
def makeFolder (disk : Disk) (path : Path) : Except FileError Disk :=
  match disk.locate path with
  | .error error => .error error
  | .ok place =>
    match disk.entry? place with
    | some _ => .error .alreadyExists
    | none => if path.isNamed then .ok (disk.put place .folder) else .error .notFound

/-- The outcome of a step that leaves the disk as it is when it fails. -/
def settle {ε : Type} (disk : Disk) (outcome : Except ε Disk) : Except ε Unit × Disk :=
  match outcome with
  | .ok disk => (.ok (), disk)
  | .error error => (.error error, disk)

/-- Makes a folder unless it is there. -/
def ensureFolder (disk : Disk) (path : Path) : Except FileError Unit × Disk :=
  match disk.makeFolder path with
  | .ok disk => (.ok (), disk)
  | .error error => if disk.isFolder path then (.ok (), disk) else (.error error, disk)

/-- Makes the first folder of a list, after the others where it cannot be made
without them. -/
def makeChain (disk : Disk) : List Path → Except FileError Unit × Disk
  | [] => (.ok (), disk)
  | path :: above =>
    match disk.makeFolder path with
    | .error .notFound =>
      match disk.makeChain above with
      | (.ok (), disk) => disk.ensureFolder path
      | failed => failed
    | _ => disk.ensureFolder path

/-- Makes a folder and the folders around it, as far as they are missing. -/
def makeFolders (disk : Disk) (path : Path) : Except FileError Unit × Disk :=
  if path.moves.isEmpty then (.ok (), disk) else disk.makeChain (path :: path.above)

/-- Puts what `content` makes of a file at the end of a path, or of nothing if there
is none. -/
def writeWith (disk : Disk) (path : Path) (content : Option Content → Content) :
    Except FileError Disk :=
  match disk.locate path with
  | .error error => .error error
  | .ok place =>
    if path.slashed || !path.isNamed then .error .isADirectory
    else
      match disk.entry? place with
      | some .folder => .error .isADirectory
      | some (.file found) => .ok (disk.put place (.file (content (some found))))
      | none => .ok (disk.put place (.file (content none)))

/-- Makes sure that a file exists: one that does stays as it is. -/
def touch (disk : Disk) (path : Path) : Except FileError Disk :=
  disk.writeWith path fun found => found.getD (.text "")

/-- Writes a text to a file. -/
def write (disk : Disk) (path : Path) (text : String) : Except FileError Disk :=
  disk.writeWith path fun _ => .text text

/-- Makes sure that a file and the folders around it exist. -/
def ensureFile (disk : Disk) (path : Path) : Except FileError Unit × Disk :=
  match disk.makeChain path.above with
  | (.ok (), disk) => disk.settle (disk.touch path)
  | failed => failed

/-- The text of the file with a name in the nearest of some folders, each inside the
next, that has such a file. -/
def nearestText? (disk : Disk) (name : String) : List Place → Option String
  | [] => none
  | folder :: around =>
    match disk.entry? (folder ++ [name]) with
    | some (.file (.text text)) => some text
    | _ => disk.nearestText? name around

end Disk

end MemoStore.Files
