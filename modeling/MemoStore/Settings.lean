import MemoStore.Document
import MemoStore.Log
import MemoStore.Schema.Variant
import MemoStore.Text.Blank
import MemoStore.Text.Decimal
import MemoStore.Text.Lowercase

/-!
# Settings

What a run is asked to do, read from named variables. A variable that is set to
something unusable is reported and the default is kept, so that reading never fails.
-/

namespace MemoStore

open MemoStore.Schema (Variant)
open MemoStore.Document (Format)

/-- The settings of a run. -/
structure Settings where
  sqlitePath : String
  databaseUrl : Option String := none
  variant : Variant := .uniqueTagName
  maxConnections : Option Nat := none
  docDirectory : Option String := none
  docFormat : Format := .yaml
  deriving DecidableEq, Repr

namespace Settings

/-- Where the database is when no path is given. -/
def defaultPath : String := "/opt/memo-schema/data.sqlite"

/-- A value that is not blank throughout. -/
def unlessBlank (value : Option String) : Option String :=
  value.filter fun text => !(Text.trim text.toList).isEmpty

/-- Reads a yes or a no, whatever the case and the blanks around it. -/
def readFlag (text : String) : Option Bool :=
  let word := String.ofList (Text.lower (Text.trim text.toList))
  if ["true", "1", "yes", "on"].contains word then some true
  else if ["false", "0", "no", "off"].contains word then some false
  else none

/-- Reads a number of 32 bits: decimal digits, with a plus sign or without. -/
def readNumber (text : List Char) : Option Nat :=
  let digits :=
    match text with
    | '+' :: rest => rest
    | _ => text
  let fits := !digits.isEmpty && digits.all Char.isDigit && Text.decimalValue digits < Nat.pow 2 32
  if fits then some (Text.decimalValue digits) else none

/-- Reads a number of connections, which is not zero. -/
def readConnections (text : String) : Option Nat :=
  (readNumber (Text.trim text.toList)).filter fun number => number != 0

/-- A report about a variable. -/
def warning (text : String) : Log.Record :=
  ⟨.warn, .settings, text⟩

/-- The report about a variable that is set to something unusable. -/
def warningUnless {α : Type} (read : String → Option α) (complaint : String → String)
    (value : Option String) : List Log.Record :=
  match value with
  | some text => if (read text).isSome then [] else [warning (complaint text)]
  | none => []

/-- The reports about all variables, in the order in which they are read. -/
def warnings (lookup : String → Option String) : List Log.Record :=
  warningUnless readFlag
      (fun text => "TAG_NAME_UNIQUE=" ++ text ++ " is not a boolean, keeping the unique index")
      (lookup "TAG_NAME_UNIQUE") ++
    warningUnless readConnections
      (fun text =>
        "DB_MAX_CONNECTIONS=" ++ text ++ " is not a positive integer, using the pool default")
      (lookup "DB_MAX_CONNECTIONS") ++
    warningUnless (fun text => (Format.read text).toOption)
      (fun text => "unknown SCHEMA_DOC_FORMAT=" ++ text ++ ", falling back to yaml")
      (lookup "SCHEMA_DOC_FORMAT")

/-- The settings that variables ask for. -/
def ofLookup (lookup : String → Option String) : Settings where
  sqlitePath := (lookup "SQLITE_PATH").getD defaultPath
  databaseUrl := unlessBlank (lookup "DATABASE_URL")
  variant := Variant.ofIndex (((lookup "TAG_NAME_UNIQUE").bind readFlag).getD true)
  maxConnections := (lookup "DB_MAX_CONNECTIONS").bind readConnections
  docDirectory := unlessBlank (lookup "SCHEMA_DOC_DIR")
  docFormat :=
    ((lookup "SCHEMA_DOC_FORMAT").bind fun text => (Format.read text).toOption).getD .yaml

/-- The settings of a local file with all else at its default. -/
def sqlite (path : String) : Settings where
  sqlitePath := path

/-- The URL of the database: the one that is given, or that of the SQLite file, whose
path may be a URL itself. -/
def url (settings : Settings) : String :=
  match settings.databaseUrl with
  | some url => url
  | none =>
    let path := Text.trim settings.sqlitePath.toList
    if "sqlite:".toList.isPrefixOf path then String.ofList path
    else String.ofList ("sqlite://".toList ++ path)

end Settings

end MemoStore
