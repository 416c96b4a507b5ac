import MemoStore.Address.Access
import MemoStore.Files.Disk
import MemoStore.Store.Connection

/-!
# Database files

To open a file as a database is to find its place, and then, at the first statement, to
look for what earlier writers left beside it: a journal to play back and a log of writes
to take over. No text is a journal or a log, so nothing comes of either, but they are
removed, and where that is impossible nothing can be read. A file that is promised not
to change is opened without this look. The first write makes a journal again.
-/

namespace MemoStore.Files

open MemoStore.Address (Access Rights)
open MemoStore.Store (Connection Database Refusal Storage)

namespace Content

/-- Whether the engine sees an empty file. It takes a single byte for none. -/
def isBlank : Content → Bool
  | .text body => body.utf8ByteSize ≤ 1
  | .database db => !db.keepsKeys

/-- A file as the engine sees it: a blank one is an empty database. -/
def storage : Content → Storage
  | .text body => if body.utf8ByteSize ≤ 1 then .database .empty else .unusable .notADatabase
  | .database db => .database db

/-- Whether a file has nothing in it. -/
def isEmpty : Content → Bool
  | .text body => body.isEmpty
  | .database db => !db.keepsKeys

end Content

/-- A name beside another: the same with an ending. -/
def Place.beside (place : Place) (ending : String) : Place :=
  place.dropLast ++ (place.getLast?.map (· ++ ending)).toList

namespace Disk

/-- The sizes that the text of a place may have for the engine, on the way and at the
end of it. -/
def wayLimit : Nat := 511

/-- The size that the text of a place may have to leave room for the names beside it. -/
def endLimit : Nat := 504

/-- Whether the engine comes past a place on its way: it need not exist, but a file is no
folder. -/
def passes (disk : Disk) (place : Place) : Bool :=
  match disk.follow [] (place.map .into) with
  | .ok _ | .error .notFound => place.size ≤ wayLimit
  | .error _ => false

/-- The place that the engine goes to, which takes folders for granted unless one is
something else. -/
def enginePlace? (disk : Disk) (place : Place) : List Move → Option Place
  | [] => if place.isEmpty || endLimit < place.size then none else some place
  | move :: rest =>
    if disk.passes (move.from place) then disk.enginePlace? (move.from place) rest else none

/-- Whether a file may be made at a place. -/
def hasRoom (disk : Disk) (place : Place) : Bool :=
  match disk.entry? place.dropLast, place.getLast? with
  | some .folder, some name => name.utf8ByteSize ≤ nameLimit
  | _, _ => false

/-- Opens the file at a place, after making it if that is allowed and needed. A folder is
opened, too, if it is only to be read, and then is none. -/
def openFile (disk : Disk) (place : Place) (rights : Rights) : Except Refusal (Content × Disk) :=
  match disk.entry? place with
  | some .folder => .error (if rights = .read then .unreadable else .cannotOpen)
  | some (.file content) => .ok (content, disk)
  | none =>
    if rights = .create && disk.hasRoom place then
      .ok (.text "", disk.put place (.file (.text "")))
    else .error .cannotOpen

/-- Whether a path leads to something. -/
def hasEntry (disk : Disk) (path : Path) : Bool :=
  match (disk.locate path).map disk.entry? with
  | .ok (some _) => !path.moves.isEmpty || path.absolute
  | _ => false

/-- Whether the permissions of a new file can be taken from where an access says. -/
def hasTemplate (disk : Disk) (access : Access) : Bool :=
  access.template.all fun path => disk.hasEntry (Path.read path)

/-- Whether the engine sees something at a place beside a database: an empty file is
nothing. -/
def hasLeft (disk : Disk) (place : Place) : Bool :=
  match disk.entry? place with
  | some (.file content) => !content.isEmpty
  | some .folder => true
  | none => false

/-- The place of the journal of a database. -/
def journal (place : Place) : Place :=
  place.beside "-journal"

/-- The place of the log of writes of a database. -/
def writeLog (place : Place) : Place :=
  place.beside "-wal"

/-- Whether the content of a journal says that there is something to play back, which a
first byte of zero denies. -/
def isPending : Content → Bool
  | .text body => body.toList.head? != some '\x00'
  | .database _ => true

/-- Whether an access locks the file in earnest. To lock it for a write needs the right to
write. -/
def locksInEarnest (access : Access) : Bool :=
  access.locks && access.way != "unix-none"

/-- Deals with a journal that is left beside a database. Beside a blank one it is removed
by whoever gets the lock for that. -/
def clearJournal (disk : Disk) (place : Place) (blank : Bool) (access : Access) :
    Except Refusal Disk :=
  match disk.entry? (journal place) with
  | none => .ok disk
  | some .folder => if blank then .ok disk else .error .unreadable
  | some (.file content) =>
    if content.isEmpty then .ok disk
    else if blank then
      .ok
        (if access.rights = .read && locksInEarnest access then disk
          else disk.remove (journal place))
    else if !isPending content then .ok disk
    else if access.rights = .read then .error .journalLeft
    else .ok (disk.remove (journal place))

/-- The place of the index of a log of writes. -/
def writeIndex (place : Place) : Place :=
  place.beside "-shm"

/-- Whether a place has a folder. -/
def hasFolder (disk : Disk) (place : Place) : Bool :=
  match disk.entry? place with
  | some .folder => true
  | _ => false

/-- Takes over a log of writes, with an index that is shared with others or private. Who
may only read leaves the log, and makes an index, too. -/
def takeWriteLog (disk : Disk) (place : Place) (shared : Bool) (rights : Rights) : Disk :=
  if rights = .read then
    if disk.hasFolder (writeIndex place) then disk
    else disk.put (writeIndex place) (.file (.text ""))
  else if !shared then disk.remove (writeLog place)
  else if disk.hasFolder (writeIndex place) then disk
  else (disk.remove (writeLog place)).remove (writeIndex place)

/-- Deals with a log of writes that is left beside a database. Only some ways to reach
files can take it over. -/
def clearWriteLog (disk : Disk) (place : Place) (blank : Bool) (access : Access) :
    Except Refusal Disk :=
  if !disk.hasLeft (writeLog place) then .ok disk
  else if blank then
    if disk.hasFolder (writeLog place) then .error .irremovable
    else .ok (disk.remove (writeLog place))
  else if disk.hasFolder (writeLog place) || !access.locks then .error .cannotOpen
  else if access.way == "unix" then .ok (disk.takeWriteLog place true access.rights)
  else if access.way == "unix-excl" then .ok (disk.takeWriteLog place false access.rights)
  else .error .cannotOpen

/-- What keeps a folder from being made as a lock. -/
def lockRefusal? (disk : Disk) (place : Place) : Option Refusal :=
  let lock := place.beside ".lock"
  if (disk.entry? lock).isSome then some .locked
  else if disk.hasRoom lock then none
  else some .unlockable

/-- Looks for what is left beside a database, and deals with it, up to the first that
keeps the database from being read. -/
def clear (disk : Disk) (place : Place) (content : Content) (access : Access) :
    Except Refusal Unit × Disk :=
  let blank := content.isBlank
  if access.immutable then (.ok (), disk)
  else if access.way == "unix-dotfile" then
    match if access.locks then disk.lockRefusal? place else none with
    | some refusal => (.error refusal, disk)
    | none => disk.settle (disk.clearWriteLog place blank access)
  else
    match disk.clearJournal place blank access with
    | .error refusal => (.error refusal, disk)
    | .ok disk => disk.settle (disk.clearWriteLog place blank access)

/-- What turns down every change to a database file. -/
def denial? (disk : Disk) (place : Place) (access : Access) : Option Refusal :=
  if access.forbidsWrites then some .readOnly
  else
    match disk.entry? (journal place) with
    | some .folder => some .cannotOpen
    | some (.file _) => none
    | none => if disk.hasRoom (journal place) then none else some .cannotOpen

/-- Opens a file as a database. -/
def openDatabase (disk : Disk) (path : Path) (access : Access) :
    Except Refusal (Connection × Place × Disk) :=
  match disk.enginePlace? (path.start disk.here) path.moves with
  | none => .error .cannotOpen
  | some place =>
    if !disk.hasTemplate access then .error .noTemplate
    else
      (disk.openFile place access.rights).map fun (content, disk) =>
        match disk.clear place content access with
        | (.error reason, disk) => ({ storage := .unusable reason }, place, disk)
        | (.ok (), disk) =>
          ({ storage := content.storage, denial := disk.denial? place access }, place, disk)

/-- Keeps a database in the file at a place, unless nothing was ever written to it. To
write it took a journal, which is gone then. -/
def keep (disk : Disk) (place : Place) (storage : Storage) : Disk :=
  match storage with
  | .database db =>
    if db.keepsKeys then (disk.remove (journal place)).put place (.file (.database db)) else disk
  | .unusable _ => disk

end Disk

end MemoStore.Files
