/-!
# Failures

Every way an operation of the library can fail, with the text it is reported by and
the status a process exits with. The engine's own errors keep the label of the kind
of call that met them; constraint violations have left that label behind.
-/

namespace MemoStore

/-- An error of the database engine or of the layer that talks to it. -/
inductive EngineError where
  | custom (message : String)
  | execution (message : String)
  | query (message : String)
  | connection (message : String)
  | recordNotFound (message : String)
  | attributeNotSet (message : String)
  | type (message : String)
  | json (message : String)
  | migration (message : String)
  | conversion (message : String)
  | acquireTimeout
  | acquireClosed
  | unpackInsertId
  | updateGetPrimaryKey
  | recordNotInserted
  | recordNotUpdated
  deriving DecidableEq, Repr

/-- The text of an engine error. -/
def EngineError.message : EngineError → String
  | .custom m => "Custom Error: " ++ m
  | .execution m => "Execution Error: " ++ m
  | .query m => "Query Error: " ++ m
  | .connection m => "Connection Error: " ++ m
  | .recordNotFound m => "RecordNotFound Error: " ++ m
  | .attributeNotSet m => "Attribute " ++ m ++ " is NotSet"
  | .type m => "Type Error: " ++ m
  | .json m => "Json Error: " ++ m
  | .migration m => "Migration Error: " ++ m
  | .conversion m => "Error converting `i64` into `i32`: " ++ m
  | .acquireTimeout => "Failed to acquire connection from pool: Connection pool timed out"
  | .acquireClosed => "Failed to acquire connection from pool: Connection closed"
  | .unpackInsertId => "Failed to unpack last_insert_id"
  | .updateGetPrimaryKey => "Failed to get primary key from model"
  | .recordNotInserted => "None of the records are inserted"
  | .recordNotUpdated => "None of the records are updated"

/-- The report that the engine gives, with its code for the kind of error. -/
def engineReport (code : Nat) (reason : String) : String :=
  "error returned from database: (code: " ++ toString code ++ ") " ++ reason

/-- A failed file operation. -/
inductive FileError where
  | notFound
  | alreadyExists
  | notADirectory
  | isADirectory
  | nameTooLong
  | nulInPath
  | other (message : String)
  deriving DecidableEq, Repr

/-- The text of a file error. -/
def FileError.message : FileError → String
  | .notFound => "No such file or directory (os error 2)"
  | .alreadyExists => "File exists (os error 17)"
  | .notADirectory => "Not a directory (os error 20)"
  | .isADirectory => "Is a directory (os error 21)"
  | .nameTooLong => "File name too long (os error 36)"
  | .nulInPath => "file name contained an unexpected NUL byte"
  | .other message => message

/-- A failure of an operation. -/
inductive Failure where
  | uniqueViolation (constraint : String)
  | foreignKeyViolation (constraint : Option String)
  | checkViolation (constraint : String)
  | engine (error : EngineError)
  | config (message : String)
  | incompleteSchema (missing : List String)
  | file (error : FileError)
  | yaml (message : String)
  | json (message : String)
  deriving DecidableEq, Repr

namespace Failure

/-- The exit status of a process that ends with this failure. -/
def code : Failure → Nat
  | .uniqueViolation _ => 10
  | .foreignKeyViolation _ => 11
  | .checkViolation _ => 12
  | .engine _ => 20
  | .config _ => 30
  | .incompleteSchema _ => 31
  | .file _ => 40
  | .yaml _ | .json _ => 41

/-- The text a failure is reported by. -/
def message : Failure → String
  | .uniqueViolation constraint => "unique constraint violated: " ++ constraint
  | .foreignKeyViolation constraint =>
    "foreign key constraint violated: " ++ constraint.getD "unknown"
  | .checkViolation constraint => "check constraint violated: " ++ constraint
  | .engine error => "database error: " ++ error.message
  | .config message => "config error: " ++ message
  | .incompleteSchema missing =>
    "schema is incomplete, missing " ++ String.intercalate ", " missing
  | .file error => error.message
  | .yaml message => message
  | .json message => message

end Failure

end MemoStore
