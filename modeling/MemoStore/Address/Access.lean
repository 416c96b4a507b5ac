import MemoStore.Failure.Basic
import MemoStore.Text.Decimal
import MemoStore.Text.Percent
import MemoStore.Text.Search
import MemoStore.Text.Utf8

/-!
# How the engine reaches a database

The engine is given a name, and what it may do to the file. A name that begins like a
file URL is one: it leaves the file name behind a host that can only be this one, and
parameters that may change everything else. They can lower the rights to a file but
not raise them, unless the database is in memory.
-/

namespace MemoStore.Address

open MemoStore.Text

/-- What may be done to a file; each includes what comes before it. -/
inductive Rights where
  | read
  | write
  /-- to make the file, too, where it is missing -/
  | create
  deriving DecidableEq, Repr

/-- Whether the second rights go no further than the first. -/
def Rights.cover : Rights → Rights → Bool
  | .create, _ => true
  | .write, wanted => wanted != .create
  | .read, wanted => wanted == .read

/-- The rights that go by a name. -/
def Rights.ofName? : String → Option Rights
  | "ro" => some .read
  | "rw" => some .write
  | "rwc" => some .create
  | _ => none

/-- Why a name is none that the engine can open. -/
inductive NameFault where
  /-- a file URL that names another host -/
  | foreignHost (host : String)
  | unknownSharing (name : String)
  | unknownRights (name : String)
  | excessiveRights (name : String)
  /-- the engine does not know this way to reach files -/
  | unknownWay (name : String)
  deriving DecidableEq, Repr

/-- The report of a fault. -/
def NameFault.text : NameFault → String
  | .foreignHost host => engineReport 1 ("invalid uri authority: " ++ host)
  | .unknownSharing name => engineReport 1 ("no such cache mode: " ++ name)
  | .unknownRights name => engineReport 1 ("no such access mode: " ++ name)
  | .excessiveRights name => engineReport 3 ("access mode not allowed: " ++ name)
  | .unknownWay name => engineReport 1 ("no such vfs: " ++ name)

/-- Where a database is. -/
inductive Location where
  /-- in memory -/
  | memory
  /-- in a file without a name, for as long as the connection lasts -/
  | temporary
  | file (path : String)
  deriving DecidableEq, Repr

/-- How a database is reached. -/
structure Access where
  file : String
  rights : Rights
  inMemory : Bool := false
  /-- whether the file is promised not to change, which also forbids to change it -/
  immutable : Bool := false
  /-- whether the file is locked against others -/
  locks : Bool := true
  /-- the file whose permissions a new file is to have -/
  template : Option String := none
  /-- the way in which files are reached -/
  way : String := "unix"
  deriving DecidableEq, Repr

namespace Access

/-- The ways in which files can be reached. -/
def ways : List String := ["unix", "unix-dotfile", "unix-excl", "unix-none", "memdb"]

/-- Whether files are only kept in memory. -/
def keepsInMemory (access : Access) : Bool :=
  access.way == "memdb"

/-- The number that a text begins with, in decimal or, behind `0x`, in hexadecimal
digits. -/
def leadingNumber (text : List Char) : Nat :=
  match text with
  | '0' :: x :: digit :: rest =>
    if (x = 'x' || x = 'X') && (Percent.hexValue? digit).isSome then
      (((digit :: rest).map Percent.hexValue?).takeWhile Option.isSome).foldl
        (fun value digit => value * 16 + digit.getD 0) 0
    else decimalValue (text.takeWhile Char.isDigit)
  | _ => decimalValue (text.takeWhile Char.isDigit)

/-- Whether the value of a parameter means yes. Of a number, the last eight bits decide,
and a number that needs more than 31 bits is none. -/
def isYes (value : String) : Bool :=
  if value.toList.head?.any Char.isDigit then
    let number := leadingNumber value.toList
    number < 2147483648 && number % 256 != 0
  else ["on", "yes", "true"].contains (value.map Char.toLower)

/-- The part of a file URL that encoded text stands for. An encoded NUL ends it. -/
def component (text : List Char) : String :=
  Utf8.readLossy ((Percent.decode text).takeWhile (· != 0))

/-- The parameters of a file URL, in order, without those that have no name. -/
def parameters (text : List Char) : List (String × String) :=
  ((pieces '&' text).map fun piece =>
    (component (piece.takeWhile (· != '=')), component ((piece.dropWhile (· != '=')).drop 1))).filter
      fun parameter => !parameter.1.isEmpty

/-- Whether a parameter says yes, where it is given for the first time. -/
def asks (parameters : List (String × String)) (name : String) : Bool :=
  (parameters.lookup name).any isYes

/-- Takes one parameter into account. -/
def set (access : Access) (name value : String) : Except NameFault Access :=
  if name = "vfs" then .ok { access with way := value }
  else if name = "cache" then
    if value = "shared" || value = "private" then .ok access else .error (.unknownSharing value)
  else if name = "mode" then
    if value = "memory" then .ok { access with rights := .write, inMemory := true }
    else
      match Rights.ofName? value with
      | none => .error (.unknownRights value)
      | some rights =>
        if access.inMemory || access.rights.cover rights then
          .ok { access with rights := rights, inMemory := false }
        else .error (.excessiveRights value)
  else .ok access

/-- Takes parameters into account, up to the first fault. -/
def setAll (access : Access) : List (String × String) → Except NameFault Access
  | [] => .ok access
  | (name, value) :: rest => (access.set name value).bind fun access => access.setAll rest

/-- What follows the host of a file URL, which must be this one where it is named. -/
def afterHost (text : List Char) : Except NameFault (List Char) :=
  match after? "//".toList text with
  | none => .ok text
  | some text =>
    let host := String.ofList (text.takeWhile (· != '/'))
    if host.isEmpty || host = "localhost" then .ok (text.dropWhile (· != '/'))
    else .error (.foreignHost host)

/-- Reads a file URL behind its scheme. A number sign ends it. -/
def ofFileUrl (text : List Char) (rights : Rights) (inMemory : Bool) :
    Except NameFault Access := do
  let text := (← afterHost text).takeWhile (· != '#')
  let wishes := parameters ((text.dropWhile (· != '?')).drop 1)
  let access : Access :=
    { file := component (text.takeWhile (· != '?'))
      rights := rights
      inMemory := inMemory
      immutable := asks wishes "immutable"
      locks := !asks wishes "nolock"
      template := wishes.lookup "modeof" }
  access.setAll wishes

/-- How a database of a name is reached, with these rights to its file or in memory. -/
def ofName (name : List Char) (rights : Rights) (inMemory : Bool) : Except NameFault Access :=
  let access :=
    match after? "file:".toList name with
    | some text => ofFileUrl text rights inMemory
    | none => .ok { file := String.ofList name, rights := rights, inMemory := inMemory }
  access.bind fun access =>
    if ways.contains access.way then .ok access else .error (.unknownWay access.way)

/-- Where the database is. -/
def location (access : Access) : Location :=
  if access.inMemory || access.file = ":memory:" then .memory
  else if access.file.isEmpty then .temporary
  else if access.keepsInMemory then .memory
  else .file access.file

/-- Whether nothing may be changed. To be immutable is a property of files, also of
those that are kept in memory. -/
def forbidsWrites (access : Access) : Bool :=
  access.rights == .read ||
    (access.immutable && !access.inMemory && !access.file.isEmpty && access.file != ":memory:")

end Access

end MemoStore.Address
