import MemoStore.Failure.Recognise
import MemoStore.Schema.Object

/-!
# Refusals

Why the SQLite engine turns a statement down, and the text it reports, with its code
for the kind of error. A referenced table that is missing is named with its database.
-/

namespace MemoStore.Store

open MemoStore.Record (Entity)

/-- A reason to turn a statement down. -/
inductive Refusal where
  | noTable (name : String)
  | noReferencedTable (entity : Entity)
  | noTrigger (name : String)
  | noIndex (name : String)
  | noView (name : String)
  | notAView (entity : Entity)
  /-- a table that the engine does not drop -/
  | protectedTable (name : String)
  /-- a table that the engine does not change for others -/
  | unmodifiableTable (name : String)
  /-- an index that carries a constraint -/
  | constraintIndex
  /-- a text that is no statement, with the complaint about it -/
  | malformed (complaint : String)
  | missingValue (entity : Entity) (column : String)
  | checkFailed (constraint : String)
  | duplicateKey (entity : Entity)
  | duplicate (entity : Entity) (columns : List String)
  | danglingReference
  | readOnly
  | cannotOpen
  | notADatabase
  /-- a folder where a file is to be read -/
  | unreadable
  /-- no file to take the permissions of a database from -/
  | noTemplate
  /-- something that is to be removed and stays -/
  | irremovable
  /-- a journal that is to be played back where nothing may be changed -/
  | journalLeft
  /-- someone else uses the database -/
  | locked
  /-- the database cannot be locked -/
  | unlockable
  deriving DecidableEq, Repr

namespace Refusal

/-- The engine's code for the kind of error. -/
def code : Refusal → Nat
  | .noTable _ | .noReferencedTable _ | .noTrigger _ | .noIndex _ | .noView _ | .notAView _ => 1
  | .protectedTable _ | .unmodifiableTable _ | .constraintIndex | .malformed _ => 1
  | .locked => 5
  | .readOnly => 8
  | .cannotOpen => 14
  | .notADatabase => 26
  | .unreadable => 266
  | .checkFailed _ => 275
  | .journalLeft => 776
  | .danglingReference => 787
  | .missingValue _ _ => 1299
  | .duplicateKey _ => 1555
  | .noTemplate => 1802
  | .duplicate _ _ => 2067
  | .irremovable => 2570
  | .unlockable => 3850

/-- What the engine says. -/
def reason : Refusal → String
  | .noTable name => "no such table: " ++ name
  | .noReferencedTable entity => "no such table: main." ++ entity.table
  | .noTrigger name => "no such trigger: " ++ name
  | .noIndex name => "no such index: " ++ name
  | .noView name => "no such view: " ++ name
  | .notAView entity => "use DROP TABLE to delete table " ++ entity.table
  | .protectedTable name => "table " ++ name ++ " may not be dropped"
  | .unmodifiableTable name => "table " ++ name ++ " may not be modified"
  | .constraintIndex =>
    "index associated with UNIQUE or PRIMARY KEY constraint cannot be dropped"
  | .malformed complaint => complaint
  | .missingValue entity column =>
    "NOT NULL constraint failed: " ++ entity.table ++ "." ++ column
  | .checkFailed constraint => "CHECK constraint failed: " ++ constraint
  | .duplicateKey entity => "UNIQUE constraint failed: " ++ entity.table ++ ".id"
  | .duplicate entity columns =>
    "UNIQUE constraint failed: " ++
      String.intercalate ", " (columns.map fun column => entity.table ++ "." ++ column)
  | .danglingReference => "FOREIGN KEY constraint failed"
  | .readOnly | .journalLeft => "attempt to write a readonly database"
  | .cannotOpen => "unable to open database file"
  | .notADatabase => "file is not a database"
  | .unreadable | .noTemplate | .irremovable | .unlockable => "disk I/O error"
  | .locked => "database is locked"

/-- The report of a refusal. -/
def text (refusal : Refusal) : String :=
  engineReport refusal.code refusal.reason

/-- Whether the statement was turned down before it ran, because of what it says. -/
def isUnprepared : Refusal → Bool
  | .noTable _ | .noReferencedTable _ | .noTrigger _ | .noIndex _ | .noView _ | .notAView _
  | .protectedTable _ | .unmodifiableTable _ | .constraintIndex | .malformed _
  | .notADatabase => true
  | _ => false

/-- Whether a refusal comes too late to be reported by a connection that denies changes: it
is asked for a change before a statement runs if it may only be read, and otherwise
when the first row changes, which only references are checked after. -/
def yieldsTo (refusal denial : Refusal) : Bool :=
  if denial = .readOnly then !refusal.isUnprepared else refusal = .danglingReference

/-- The error of a statement that was to change something. -/
def onExecution (refusal : Refusal) : EngineError :=
  .execution refusal.text

/-- The error of a statement that was to read something. -/
def onQuery (refusal : Refusal) : EngineError :=
  .query refusal.text

end Refusal

end MemoStore.Store
