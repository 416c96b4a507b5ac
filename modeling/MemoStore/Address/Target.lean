import MemoStore.Address.Access
import MemoStore.Text.Quoted

/-!
# Where a SQLite URL points

Behind the scheme, a SQLite URL is a file name and parameters, divided by the first
question mark. The file that is prepared before a connection is made and the database
that the connection opens are read from the URL separately: the first takes the name
as it is written, and the second takes its percent-encoding off, so the two differ
where a name is encoded. The engine is given a name with the wishes that it has no
other way to learn of.
-/

namespace MemoStore.Address

open MemoStore.Text

/-- What follows the scheme of a SQLite URL, with or without slashes. -/
def sqliteRest? (url : List Char) : Option (List Char) :=
  (after? "sqlite://".toList url).or (after? "sqlite:".toList url)

/-- The part of a text before its first question mark. -/
def beforeParameters (text : List Char) : List Char :=
  text.takeWhile (· != '?')

/-- The file to prepare for a URL: none for another kind of database and for one in
memory. -/
def preparedFile? (url : String) : Option String :=
  (sqliteRest? url.toList).bind fun rest =>
    let file := beforeParameters rest
    if file.isEmpty || file = ":memory:".toList || occurs "mode=memory".toList url.toList then none
    else some (String.ofList file)

/-- What a URL asks for. -/
structure Target where
  /-- the file name, where one is given -/
  file : String := ""
  inMemory : Bool := false
  readOnly : Bool := false
  /-- whether a file that is missing is made -/
  creates : Bool := false
  /-- whether the file is promised not to change, which also forbids to change it -/
  immutable : Bool := false
  /-- the way in which the engine is to reach files -/
  access : Option String := none
  deriving DecidableEq, Repr

namespace Target

/-- The name of a database in memory that is given no other. -/
def memoryName : String := "file:in-memory"

/-- Drops a text from the front as often as it stands there. -/
def dropRepeated (literal text : List Char) : List Char :=
  if literal ≠ [] ∧ literal.isPrefixOf text then
    dropRepeated literal (text.drop literal.length)
  else text
  termination_by text.length
  decreasing_by
    rename_i found
    have size := (List.isPrefixOf_iff_prefix.1 found.2).length_le
    have positive := List.length_pos_iff.2 found.1
    simp only [List.length_drop]
    omega

/-- Cuts a text at the first place of a character. -/
def cutAt (c : Char) (text : List Char) : List Char × Option (List Char) :=
  match text.dropWhile (· != c) with
  | [] => (text.takeWhile (· != c), none)
  | _ :: after => (text.takeWhile (· != c), some after)

/-- The parameters of a URL, in order. -/
def parameters (text : List Char) : List (String × String) :=
  ((pieces '&' text).filter fun piece => !piece.isEmpty).map fun piece =>
    let (name, value) := cutAt '=' piece
    (Utf8.readLossy (Percent.decodeForm name),
      Utf8.readLossy (Percent.decodeForm (value.getD [])))

/-- The complaint about the value of a parameter. -/
def unknownValue (name value : String) : String :=
  "unknown value " ++ Quoted.quote value ++ " for `" ++ name ++ "`"

/-- Takes one parameter into account. -/
def set (target : Target) (name value : String) : Except String Target :=
  match name, value with
  | "mode", "ro" => .ok { target with readOnly := true }
  | "mode", "rw" => .ok target
  | "mode", "rwc" => .ok { target with creates := true }
  | "mode", "memory" => .ok { target with inMemory := true }
  | "cache", "private" | "cache", "shared" => .ok target
  | "immutable", "true" | "immutable", "1" => .ok { target with immutable := true }
  | "immutable", "false" | "immutable", "0" => .ok { target with immutable := false }
  | "vfs", _ => .ok { target with access := some value }
  | "mode", _ | "cache", _ | "immutable", _ => .error (unknownValue name value)
  | _, _ =>
    .error ("unknown query parameter `" ++ name ++ "` while parsing connection URL")

/-- Takes parameters into account, up to the first that is not understood. -/
def setAll (target : Target) : List (String × String) → Except String Target
  | [] => .ok target
  | (name, value) :: rest => (target.set name value).bind fun target => target.setAll rest

/-- The target without parameters. -/
def ofFile (file : List Char) : Except String Target :=
  if file = ":memory:".toList then .ok { file := memoryName, inMemory := true }
  else (Utf8.read (Percent.decode file)).map fun file => { file := file }

/-- Reads what a URL asks for, or the complaint about it. -/
def read (url : String) : Except String Target :=
  let rest := dropRepeated "sqlite:".toList (dropRepeated "sqlite://".toList url.toList)
  let (file, text) := cutAt '?' rest
  (ofFile file).bind fun target => target.setAll ((text.map parameters).getD [])

/-- The wishes that the engine learns of by the name. -/
def wishes (target : Target) : List String :=
  (if target.immutable then ["immutable=true"] else []) ++
    (target.access.map fun way => "vfs=" ++ way).toList

/-- The name that the engine is given: the file, or a file URL with the wishes. Only the
file is encoded in it, so that a wish may bring others along. -/
def engineName (target : Target) : List Char :=
  if target.wishes.isEmpty then target.file.toList
  else
    "file:".toList ++ Percent.encode target.file.toUTF8.toList ++
      '?' :: (String.intercalate "&" target.wishes).toList

/-- What may be done to the file of the target. -/
def rights (target : Target) : Rights :=
  if target.readOnly then .read else if target.creates then .create else .write

/-- How the engine is to reach the database; nothing if the name is none. -/
def access? (target : Target) : Option (Except NameFault Access) :=
  if target.engineName.contains '\x00' then none
  else some (Access.ofName target.engineName target.rights target.inMemory)

end Target

end MemoStore.Address
